import AthabascaRecon.Engines.MultiThreaded.Replay

/-!
# Statements executed in the order of issue

The memory that a list of statements leads to when every message and every request
is executed as it is issued (`perform`). The loops over lanes and threads send
messages that do not interfere, so each leaves what it would leave alone. Requests
share the position of the reader and the files written, and are taken one by one.
-/

set_option autoImplicit false

namespace AthabascaRecon.MultiThreaded

open Foundation.Concurrency

variable {stages : Stages}

/-- Execute statements in the order of issue. -/
def perform (actions : List MainAction) (heap : Heap (Val stages)) : Heap (Val stages) :=
  flush (MainAction.command stages) actions heap

@[simp] theorem perform_nil (heap : Heap (Val stages)) : perform [] heap = heap := rfl

theorem perform_cons (action : MainAction) (rest : List MainAction) (heap : Heap (Val stages)) :
    perform (action :: rest) heap = perform rest ((action.command stages).run heap) := rfl

theorem perform_append (first second : List MainAction) (heap : Heap (Val stages)) :
    perform (first ++ second) heap = perform second (perform first heap) :=
  flush_append _ first second heap

/-- What no statement writes is as before. -/
theorem perform_frame {actions : List MainAction} {location : Location}
    (unwritten : ∀ action ∈ actions, location ∉ (action.command stages).writes)
    (heap : Heap (Val stages)) : perform actions heap location = heap location :=
  flush_frame _ unwritten heap

/-- Statements that do nothing to the memory. -/
theorem perform_idle {actions : List MainAction}
    (idle : ∀ action ∈ actions, action.command stages = Command.skip)
    (heap : Heap (Val stages)) : perform actions heap = heap := by
  induction actions generalizing heap with
  | nil => rfl
  | cons action rest ih =>
      rw [perform_cons, idle action List.mem_cons_self]
      exact ih (fun other member => idle other (List.mem_cons_of_mem _ member)) heap

theorem perform_waitEach {count : ℕ} {buffer : ℕ → Buffer} (heap : Heap (Val stages)) :
    perform (sendEach count fun pp => .waitForBufferRelease (buffer pp)) heap = heap :=
  perform_idle (forall_mem_sendEach fun _ _ => rfl) heap

theorem perform_synchronizeAllAndWait {count : ℕ} (heap : Heap (Val stages)) :
    perform (synchronizeAllAndWait count) heap = heap := by
  refine perform_idle (forall_mem_append (forall_mem_sendEach fun _ _ => rfl) ?_) heap
  intro action member
  obtain rfl := List.mem_singleton.mp member
  rfl

theorem perform_checkExceptions {count : ℕ} (heap : Heap (Val stages)) :
    perform (checkExceptions count) heap = heap := by
  refine perform_idle ?_ heap
  intro action member
  obtain ⟨t, -, rfl⟩ := List.mem_map.mp member
  rfl

/-! ## Messages to lanes or threads -/

/-- Among messages that do not interfere, each leaves what it leaves alone. -/
theorem perform_sendEach {count : ℕ} {message : ℕ → Message}
    (independent : ∀ t < count, ∀ t' < count, t ≠ t' →
      (performMessage stages t (message t)).Independent (performMessage stages t' (message t')))
    {t : ℕ} (below : t < count) {location : Location}
    (written : location ∈ (performMessage stages t (message t)).writes)
    (heap : Heap (Val stages)) :
    perform (sendEach count message) heap location =
      (performMessage stages t (message t)).run heap location := by
  have pairwise : (sendEach count message).Pairwise fun first second =>
      (first.command stages).Independent (second.command stages) := by
    refine List.pairwise_map.mpr ?_
    refine List.Pairwise.imp_of_mem ?_ List.pairwise_lt_range
    intro t t' member member' less
    exact independent t (List.mem_range.mp member) t' (List.mem_range.mp member') less.ne
  have member : MainAction.setMessage t (message t) ∈ sendEach count message :=
    setMessage_mem_sendEach.mpr ⟨below, rfl⟩
  exact flush_of_mem _ pairwise member written heap

/-- Messages on the lane of their thread. -/
theorem perform_sendLocal (lanes : ℕ) {count : ℕ} {message : ℕ → Message}
    (isLocal : ∀ t < count, (message t).Local lanes t) {t : ℕ} (below : t < count)
    {location : Location} (written : location ∈ (performMessage stages t (message t)).writes)
    (heap : Heap (Val stages)) :
    perform (sendEach count message) heap location =
      (performMessage stages t (message t)).run heap location := by
  refine perform_sendEach ?_ below written heap
  intro t less t' less' different
  exact independent_of_local stages different (isLocal t less) (isLocal t' less')

/-! ## Loops that write a file -/

/-- Each statement of the loop puts one item into a file, and no statement changes the items
of the others. -/
theorem perform_log {Item : Type} {count : ℕ} {action : ℕ → MainAction}
    (log : Heap (Val stages) → List Item) (item : Heap (Val stages) → ℕ → Item)
    (next : ∀ heap pp, log (((action pp).command stages).run heap) = log heap ++ [item heap pp])
    (kept : ∀ heap pp other, item (((action pp).command stages).run heap) other = item heap other)
    (heap : Heap (Val stages)) :
    log (perform ((List.range count).map action) heap) =
        log heap ++ (List.range count).map (item heap) ∧
      item (perform ((List.range count).map action) heap) = item heap := by
  induction count with
  | zero => simp
  | succ count ih =>
      obtain ⟨logged, items⟩ := ih
      rw [List.range_succ, List.map_append, perform_append]
      simp only [List.map_singleton, perform_cons, perform_nil]
      refine ⟨?_, ?_⟩
      · rw [next, logged, items, List.map_append, List.map_singleton, List.append_assoc]
      · funext other
        rw [kept, items]

theorem perform_writeCorrections {count : ℕ} (index : ℕ → ℕ) (heap : Heap (Val stages)) :
    correctionLines (perform ((List.range count).map fun pp => .writeCorrection (index pp)) heap) =
      correctionLines heap ++ (List.range count).map fun pp => correctionAt heap (index pp) := by
  refine (perform_log correctionLines (fun heap pp => correctionAt heap (index pp)) ?_ ?_ heap).1
  · intro heap pp
    simp only [MainAction.command, performWriteCorrection]
    exact assign_run_self ..
  · intro heap pp other
    exact Command.frame _ _ _ (by simp [MainAction.command, performWriteCorrection, assign,
      Command.assign])

theorem perform_writeAttenuations {count : ℕ} (slot : ℕ → ImageSlot) (heap : Heap (Val stages)) :
    attenuationSlices (perform (requestEach count fun pp => .writeAttenuation (slot pp)) heap) =
      attenuationSlices heap ++
        (List.range count).map fun pp => attenuationImage heap (slot pp) := by
  refine (perform_log attenuationSlices (fun heap pp => attenuationImage heap (slot pp)) ?_ ?_
    heap).1
  · intro heap pp
    simp only [MainAction.command, performRequest]
    exact assign_run_self ..
  · intro heap pp other
    exact Command.frame _ _ _ (by simp [MainAction.command, performRequest, assign,
      Command.assign])

theorem perform_writeFiltered {count : ℕ} (slot : ℕ → ImageSlot) (heap : Heap (Val stages)) :
    filteredSlices (perform (requestEach count fun pp => .writeFiltered (slot pp)) heap) =
      filteredSlices heap ++ (List.range count).map fun pp => filteredImage heap (slot pp) := by
  refine (perform_log filteredSlices (fun heap pp => filteredImage heap (slot pp)) ?_ ?_ heap).1
  · intro heap pp
    simp only [MainAction.command, performRequest]
    exact assign_run_self ..
  · intro heap pp other
    exact Command.frame _ _ _ (by simp [MainAction.command, performRequest, assign,
      Command.assign])

/-! ## Loops that read projections -/

/-- What a projections reader delivers for an image of each kind. -/
def deliver (stages : Stages) (p : ℕ) : (buffer : Buffer) → Val stages (.image buffer)
  | .raw _ => stages.readRaw p
  | .attenuation _ => stages.readAttenuation p
  | .filtered _ => stages.readFiltered p

theorem projectionsRead_nextProjection (heap : Heap (Val stages)) :
    projectionsRead ((nextProjection stages).run heap) = projectionsRead heap + 1 := by
  simp only [nextProjection]
  exact assign_run_self ..

/-- A read request fills its image with the next projection. -/
theorem performRequest_read {request : IORequest} (isRead : request.isRead = true)
    (heap : Heap (Val stages)) :
    (performRequest stages request).run heap (.image request.image) =
        deliver stages (projectionsRead heap) request.image ∧
      projectionsRead ((performRequest stages request).run heap) = projectionsRead heap + 1 := by
  have filled : ∀ (buffer : Buffer) (sources : List Location)
      (value : Heap (Val stages) → Val stages (.image buffer)) stable,
      ((assign stages (.image buffer) sources value stable).andThen (nextProjection stages)).run
          heap (.image buffer) = value heap ∧
        projectionsRead (((assign stages (.image buffer) sources value stable).andThen
          (nextProjection stages)).run heap) = projectionsRead heap + 1 := by
    intro buffer sources value stable
    have kept := (nextProjection stages).frame
      ((assign stages (.image buffer) sources value stable).run heap) (.image buffer)
      (by simp [nextProjection, assign, Command.assign])
    refine ⟨kept.trans (assign_run_self _ sources value stable heap), ?_⟩
    · refine (projectionsRead_nextProjection _).trans (congrArg (· + 1) ?_)
      exact Command.frame _ _ _ (by simp [assign, Command.assign])
  cases request with
  | readRaw slot => exact filled ..
  | readAttenuation slot => exact filled ..
  | readFiltered slot => exact filled ..
  | writeAttenuation slot => cases isRead
  | writeFiltered slot => cases isRead

theorem performRequest_writes_read {request : IORequest} (isRead : request.isRead = true)
    {location : Location} (written : location ∈ (performRequest stages request).writes) :
    location = .image request.image ∨ location = .projectionsReader := by
  cases request with
  | writeAttenuation slot => cases isRead
  | writeFiltered slot => cases isRead
  | _ =>
      simpa [performRequest, nextProjection, assign, Command.assign, Command.andThen,
        IORequest.image] using written

/-- The images of different lanes are filled with the next projections in their order. -/
theorem perform_reads {count : ℕ} {request : ℕ → IORequest}
    (isRead : ∀ pp, (request pp).isRead = true)
    (lane : ∀ pp < count, (request pp).image.lane = pp) (heap : Heap (Val stages)) :
    (∀ pp < count, perform (requestEach count request) heap (.image (request pp).image) =
        deliver stages (projectionsRead heap + pp) (request pp).image) ∧
      projectionsRead (perform (requestEach count request) heap) =
        projectionsRead heap + count := by
  induction count with
  | zero => exact ⟨fun pp below => absurd below (Nat.not_lt_zero pp), rfl⟩
  | succ count ih =>
      obtain ⟨images, position⟩ := ih fun pp below => lane pp (below.trans (Nat.lt_succ_self _))
      have last := performRequest_read (isRead count) (perform (requestEach count request) heap)
      have split : perform (requestEach (count + 1) request) heap =
          (performRequest stages (request count)).run
            (perform (requestEach count request) heap) := by
        simp only [requestEach, List.range_succ, List.map_append, perform_append]
        rfl
      rw [split]
      refine ⟨?_, ?_⟩
      · intro pp below
        rcases Nat.lt_succ_iff_lt_or_eq.mp below with earlier | rfl
        · refine Eq.trans ?_ (images pp earlier)
          refine Command.frame _ _ _ ?_
          intro written
          rcases performRequest_writes_read (isRead count) written with same | never
          · have sameLane : pp = count := by
              rw [← lane pp below, ← lane count (Nat.lt_succ_self _), Location.image.inj same]
            exact earlier.ne sameLane
          · cases never
        · rw [last.1, position]
      · rw [last.2, position, Nat.add_assoc]

/-! ## Loops over the images of a group -/

section Images

variable {count : ℕ} {slot : ℕ → ImageSlot} (lane : ∀ pp < count, (slot pp).lane = pp)
  {t : ℕ} (below : t < count) (heap : Heap (Val stages))

include lane below

theorem perform_convertToAttenuation {raw : ℕ → ImageSlot}
    (rawLane : ∀ pp < count, (raw pp).lane = pp) :
    attenuationImage (perform (sendEach count fun pp =>
        .convertToAttenuation (raw pp) (slot pp)) heap) (slot t) =
      stages.processProjection (rawImage heap (raw t)) := by
  refine (perform_sendLocal 0 ?_ below ?_ heap).trans (assign_run_self ..)
  · intro t less
    simp [Message.Local, Message.images, Buffer.lane, Buffer.slot, lane t less, rawLane t less]
  · simp [performMessage, assign, Command.assign]

theorem perform_correctBadPixels :
    attenuationImage (perform (sendEach count fun pp => .correctBadPixels (slot pp)) heap)
        (slot t) =
      stages.correctBadPixels (attenuationImage heap (slot t)) := by
  refine (perform_sendLocal 0 ?_ below ?_ heap).trans (assign_run_self ..)
  · intro t less
    simp [Message.Local, Message.images, Buffer.lane, Buffer.slot, lane t less]
  · simp [performMessage, assign, Command.assign]

theorem perform_filterProjection {attenuation : ℕ → ImageSlot}
    (attenuationLane : ∀ pp < count, (attenuation pp).lane = pp) :
    filteredImage (perform (sendEach count fun pp =>
        .filterProjection (attenuation pp) (slot pp)) heap) (slot t) =
      stages.filterProjection (attenuationImage heap (attenuation t)) := by
  refine (perform_sendLocal 0 ?_ below ?_ heap).trans (assign_run_self ..)
  · intro t less
    simp [Message.Local, Message.images, Buffer.lane, Buffer.slot, lane t less,
      attenuationLane t less]
  · simp [performMessage, assign, Command.assign]

end Images

/-- Two assignments write what they would write one after the other. -/
theorem assign_andThen_assign_run {first second : Location} (different : first ≠ second)
    (sources sources' : List Location) (value : Heap (Val stages) → Val stages first)
    (value' : Heap (Val stages) → Val stages second) (stable stable') (heap : Heap (Val stages)) :
    ((assign stages first sources value stable).andThen
          (assign stages second sources' value' stable')).run heap first = value heap ∧
      ((assign stages first sources value stable).andThen
          (assign stages second sources' value' stable')).run heap second =
        value' ((assign stages first sources value stable).run heap) := by
  have kept := (assign stages second sources' value' stable').frame
    ((assign stages first sources value stable).run heap) first
    (by simpa [assign, Command.assign] using different)
  exact ⟨kept.trans (assign_run_self _ sources value stable heap),
    assign_run_self _ sources' value' stable' _⟩

theorem correctBeamPower_run (index : ℕ) (slot : ImageSlot) (heap : Heap (Val stages)) :
    attenuationImage ((correctBeamPower stages index slot).run heap) slot =
        (stages.correctBeamPower (referenceKept heap) index (attenuationImage heap slot)).1 ∧
      correctionAt ((correctBeamPower stages index slot).run heap) index =
        (stages.correctBeamPower (referenceKept heap) index (attenuationImage heap slot)).2 := by
  unfold correctBeamPower
  have different : Location.correction index ≠ .image (.attenuation slot) := nofun
  refine ⟨Eq.trans (assign_andThen_assign_run different ..).2 ?_,
    (assign_andThen_assign_run different ..).1⟩
  rfl

theorem perform_correctBeamPower {lanes count : ℕ} {index : ℕ → ℕ} {slot : ℕ → ImageSlot}
    (lane : ∀ pp < count, (slot pp).lane = pp) (indexLane : ∀ pp < count, index pp % lanes = pp)
    {t : ℕ} (below : t < count) (heap : Heap (Val stages)) :
    attenuationImage (perform (sendEach count fun pp =>
          .correctBeamPower (index pp) (slot pp)) heap) (slot t) =
        (stages.correctBeamPower (referenceKept heap) (index t)
          (attenuationImage heap (slot t))).1 ∧
      correctionAt (perform (sendEach count fun pp =>
          .correctBeamPower (index pp) (slot pp)) heap) (index t) =
        (stages.correctBeamPower (referenceKept heap) (index t)
          (attenuationImage heap (slot t))).2 := by
  have isLocal : ∀ t < count, (Message.correctBeamPower (index t) (slot t)).Local lanes t :=
    fun t less => ⟨lane t less, indexLane t less⟩
  refine ⟨(perform_sendLocal lanes isLocal below ?_ heap).trans (correctBeamPower_run _ _ heap).1,
    (perform_sendLocal lanes isLocal below ?_ heap).trans (correctBeamPower_run _ _ heap).2⟩
  · simp [performMessage, correctBeamPower, assign, Command.assign, Command.andThen]
  · simp [performMessage, correctBeamPower, assign, Command.assign, Command.andThen]

theorem referenceKept_setReferenceProjection (slot : ImageSlot) (heap : Heap (Val stages)) :
    referenceKept ((performSetReferenceProjection stages slot).run heap) =
      stages.setReferenceProjection (referenceKept heap) (attenuationImage heap slot) := by
  unfold performSetReferenceProjection
  exact assign_run_self ..

end AthabascaRecon.MultiThreaded
