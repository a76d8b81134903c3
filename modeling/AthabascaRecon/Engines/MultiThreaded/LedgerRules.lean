import AthabascaRecon.Engines.MultiThreaded.Ledger

/-!
# Rules for lists of statements

The statements of the main thread come in loops over threads and lanes. For each
kind of loop there is a rule that says from which ledgers it conforms and which
ledgers it leads to (`Leads`). A ledger is described by a property of the messages
that were sent and by the use of the images.

The images that a loop over lanes requests, or waits for, are those on one side of
the double buffers of the first lanes (`mark`).
-/

set_option autoImplicit false

namespace AthabascaRecon.MultiThreaded

/-- The image of a kind in a slot. -/
def BufferKind.buffer : BufferKind → ImageSlot → Buffer
  | .raw => .raw
  | .attenuation => .attenuation
  | .filtered => .filtered

@[simp] theorem BufferKind.buffer_lane (kind : BufferKind) (slot : ImageSlot) :
    (kind.buffer slot).lane = slot.lane := by
  cases kind <;> rfl

@[simp] theorem BufferKind.buffer_side (kind : BufferKind) (slot : ImageSlot) :
    (kind.buffer slot).side = slot.side := by
  cases kind <;> rfl

@[simp] theorem BufferKind.buffer_kind (kind : BufferKind) (slot : ImageSlot) :
    (kind.buffer slot).kind = kind := by
  cases kind <;> rfl

theorem Buffer.eq_buffer (buffer : Buffer) : buffer = buffer.kind.buffer buffer.slot := by
  cases buffer <;> rfl

namespace Ledger

/-- The images on one side of the first lanes are put to a use. -/
def mark (use : Buffer → BufferUse) (kind : BufferKind) (side : Side) (count : ℕ)
    (new : BufferUse) : Buffer → BufferUse :=
  fun buffer =>
    if buffer.kind = kind ∧ buffer.side = side ∧ buffer.lane < count then new else use buffer

/-- What was awaited is free. -/
def clear (use : Buffer → BufferUse) : Buffer → BufferUse :=
  fun buffer => if use buffer = .awaited then .free else use buffer

@[simp] theorem mark_zero (use : Buffer → BufferUse) (kind : BufferKind) (side : Side)
    (new : BufferUse) : mark use kind side 0 new = use := by
  funext buffer
  simp [mark]

theorem mark_succ (use : Buffer → BufferUse) (kind : BufferKind) (side : Side) (count : ℕ)
    (new : BufferUse) :
    mark use kind side (count + 1) new =
      Function.update (mark use kind side count new) (kind.buffer ⟨count, side⟩) new := by
  funext buffer
  by_cases same : buffer = kind.buffer ⟨count, side⟩
  · subst same
    simp [mark]
  · rw [Function.update_of_ne same]
    have beyond : ¬ (buffer.kind = kind ∧ buffer.side = side ∧ buffer.lane = count) := by
      rintro ⟨rfl, rfl, rfl⟩
      exact same (by rw [Buffer.eq_buffer buffer]; cases buffer <;> rfl)
    simp only [mark]
    have equivalent : (buffer.kind = kind ∧ buffer.side = side ∧ buffer.lane < count + 1) ↔
        (buffer.kind = kind ∧ buffer.side = side ∧ buffer.lane < count) := by
      constructor
      · rintro ⟨sameKind, sameSide, below⟩
        refine ⟨sameKind, sameSide, ?_⟩
        rcases Nat.lt_succ_iff_lt_or_eq.mp below with earlier | last
        · exact earlier
        · exact absurd ⟨sameKind, sameSide, last⟩ beyond
      · rintro ⟨sameKind, sameSide, below⟩
        exact ⟨sameKind, sameSide, Nat.lt_succ_of_lt below⟩
    simp only [equivalent]

/-- Every message sent since the last barrier has the property. -/
def All (sent : ℕ → Message → Prop) (ledger : Ledger) : Prop :=
  ∀ t, ∀ message ∈ ledger.issued t, sent t message

/-- From every ledger of the first description the statements conform, and lead to
a ledger of the second description. -/
def Leads (config : Config) (sent : ℕ → Message → Prop) (use : Buffer → BufferUse)
    (actions : List MainAction) (sent' : ℕ → Message → Prop) (use' : Buffer → BufferUse) : Prop :=
  ∀ ledger : Ledger, ledger.All sent → ledger.use = use →
    ledger.Conforms config actions ∧ (ledger.advanceAll actions).All sent' ∧
      (ledger.advanceAll actions).use = use'

section Rules

variable {config : Config} {sent sent' sent'' : ℕ → Message → Prop}
  {use use' use'' : Buffer → BufferUse}

theorem Leads.nil : Leads config sent use [] sent use :=
  fun _ all same => ⟨trivial, all, same⟩

theorem Leads.append {first second : List MainAction}
    (before : Leads config sent use first sent' use')
    (after : Leads config sent' use' second sent'' use'') :
    Leads config sent use (first ++ second) sent'' use'' := by
  intro ledger all same
  obtain ⟨conforms, all', same'⟩ := before ledger all same
  obtain ⟨conforms', all'', same''⟩ := after _ all' same'
  rw [conforms_append, advanceAll_append]
  exact ⟨⟨conforms, conforms'⟩, all'', same''⟩

/-- Less may be known of the messages afterwards, and more before. -/
theorem Leads.weaken {actions : List MainAction} {known : ℕ → Message → Prop}
    (leads : Leads config sent use actions sent' use')
    (stronger : ∀ t message, known t message → sent t message)
    (weaker : ∀ t message, sent' t message → sent'' t message) :
    Leads config known use actions sent'' use' := by
  intro ledger all same
  obtain ⟨conforms, all', same'⟩ := leads ledger (fun t message member =>
    stronger t message (all t message member)) same
  exact ⟨conforms, fun t message member => weaker t message (all' t message member), same'⟩

theorem Leads.ite {condition : Prop} [Decidable condition] {first second : List MainAction}
    {firstUse secondUse : Buffer → BufferUse}
    (holds : condition → Leads config sent use first sent' firstUse)
    (fails : ¬ condition → Leads config sent use second sent' secondUse) :
    Leads config sent use (if condition then first else second) sent'
      (if condition then firstUse else secondUse) := by
  split_ifs with test
  · exact holds test
  · exact fails test

theorem sendEach_succ (count : ℕ) (message : ℕ → Message) :
    sendEach (count + 1) message =
      sendEach count message ++ [.setMessage count (message count)] := by
  simp [sendEach, List.range_succ]

/-- A loop over threads that sends one message to each. -/
theorem leads_sendEach {count : ℕ} {message : ℕ → Message} (uses : ℕ → Buffer → BufferUse)
    (start : uses 0 = use)
    (next : ∀ t < count, ∀ ledger : Ledger, ledger.All sent → ledger.use = uses t →
      (∀ other ∈ ledger.issued t, other.isSynchronize = false) →
        ledger.AllowsMessage config t (message t) ∧ (ledger.send t (message t)).use = uses (t + 1))
    (ordinary : ∀ t other, sent t other → other.isSynchronize = false)
    (sends : ∀ t < count, sent t (message t)) :
    Leads config sent use (sendEach count message) sent (uses count) := by
  induction count with
  | zero =>
      rw [start]
      exact Leads.nil
  | succ count ih =>
      have before := ih (fun t below => next t (Nat.lt_succ_of_lt below))
        fun t below => sends t (Nat.lt_succ_of_lt below)
      rw [sendEach_succ]
      refine before.append fun ledger all same => ?_
      obtain ⟨allowed, same'⟩ := next count (Nat.lt_succ_self count) ledger all same
        fun other member => ordinary count other (all count other member)
      refine ⟨⟨allowed, trivial⟩, fun t other member => ?_, same'⟩
      rcases mem_send.mp member with earlier | ⟨rfl, rfl⟩
      · exact all t other earlier
      · exact sends t (Nat.lt_succ_self t)

/-- A message that a thread may execute while the others work on their own lanes. -/
def Ordinary (config : Config) (t : ℕ) (message : Message) : Prop :=
  message.Local (projectionsPerStep config) t ∧ message.isSynchronize = false

/-- A message that looks at no image. -/
def Passive (config : Config) (t : ℕ) (message : Message) : Prop :=
  Ordinary config t message ∧ message.images = []

/-- A back-projection. -/
def Applying (_ : ℕ) (message : Message) : Prop :=
  message.Shared ∧ message.isSynchronize = false

/-- No message was sent since the last barrier. -/
def Nothing (_ : ℕ) (_ : Message) : Prop := False

theorem All.synchronized {ledger : Ledger} (all : ledger.All Nothing) : ledger.Synchronized := by
  intro t
  rw [List.eq_nil_iff_forall_not_mem]
  exact fun message member => all t message member

theorem Synchronized.all {ledger : Ledger} (synchronized : ledger.Synchronized)
    (sent : ℕ → Message → Prop) : ledger.All sent := by
  intro t message member
  rw [synchronized t] at member
  exact absurd member List.not_mem_nil

/-- Messages on the own lane go with others on theirs. -/
theorem leads_sendLocal {count : ℕ} {message : ℕ → Message}
    (threads : count ≤ config.numberOfThreads)
    (ordinary : ∀ t < count, Ordinary config t (message t))
    (noWait : ∀ t < count, ∀ buffer, message t ≠ .waitForBufferRelease buffer)
    (changes : ∀ t < count, ∀ buffer ∈ (message t).changedImages,
      use buffer = .free ∨ use buffer = .awaited)
    (reads : ∀ t < count, ∀ buffer ∈ (message t).images,
      use buffer ≠ .reading ∧ (use buffer = .awaited → buffer.lane = t)) :
    Leads config (Ordinary config) use (sendEach count message) (Ordinary config) use := by
  refine leads_sendEach (fun _ => use) rfl (fun t below ledger all same unsynchronized => ?_)
    (fun _ _ known => known.2) ordinary
  subst same
  refine ⟨⟨below.trans_le threads, unsynchronized, fun t' _ earlier member => ?_, changes t below,
    reads t below, fun buffer waits => absurd waits (noWait t below buffer)⟩,
    use_send (noWait t below)⟩
  exact Or.inl ⟨(all t' earlier member).1, (ordinary t below).1⟩

/-- Messages that look at no image. -/
theorem leads_sendPassive {count : ℕ} {message : ℕ → Message}
    (threads : count ≤ config.numberOfThreads)
    (passive : ∀ t < count, Passive config t (message t))
    (noWait : ∀ t < count, ∀ buffer, message t ≠ .waitForBufferRelease buffer) :
    Leads config (Passive config) use (sendEach count message) (Passive config) use := by
  refine leads_sendEach (fun _ => use) rfl (fun t below ledger all same unsynchronized => ?_)
    (fun _ _ known => known.1.2) passive
  subst same
  have unlooked := (passive t below).2
  have unchanged : (message t).changedImages = [] :=
    List.subset_nil.mp (unlooked ▸ changedImages_subset_images (message t))
  refine ⟨⟨below.trans_le threads, unsynchronized, fun t' _ earlier member => ?_, ?_, ?_,
    fun buffer waits => absurd waits (noWait t below buffer)⟩, use_send (noWait t below)⟩
  · exact Or.inl ⟨(all t' earlier member).1.1, (passive t below).1.1⟩
  · simp [unchanged]
  · simp [unlooked]

theorem passive_wait (config : Config) (t : ℕ) (buffer : Buffer) :
    Passive config t (.waitForBufferRelease buffer) :=
  ⟨⟨fun _ member => absurd member List.not_mem_nil, rfl⟩, rfl⟩

/-- Each thread waits for the image of its lane. -/
theorem leads_waitEach {count : ℕ} {buffer : ℕ → Buffer} {kind : BufferKind} {side : Side}
    (threads : count ≤ config.numberOfThreads)
    (images : ∀ pp < count, buffer pp = kind.buffer ⟨pp, side⟩)
    (used : ∀ pp < count, use (kind.buffer ⟨pp, side⟩) = .reading ∨
      use (kind.buffer ⟨pp, side⟩) = .writing)
    (waits : ∀ t other, Passive config t other → sent t other)
    (ordinary : ∀ t other, sent t other → Ordinary config t other) :
    Leads config sent use (sendEach count fun pp => .waitForBufferRelease (buffer pp)) sent
      (mark use kind side count .awaited) := by
  refine leads_sendEach (fun t => mark use kind side t .awaited) (mark_zero ..)
    (fun t below ledger all same unsynchronized => ?_) (fun t other known =>
      (ordinary t other known).2) fun t _ => waits t _ (passive_wait config t _)
  rw [images t below]
  have still : ledger.use (kind.buffer ⟨t, side⟩) = use (kind.buffer ⟨t, side⟩) := by
    simp [same, mark]
  refine ⟨⟨below.trans_le threads, unsynchronized, fun t' _ earlier member => ?_, ?_, ?_,
    fun other waited => ?_⟩, ?_⟩
  · exact Or.inl ⟨(ordinary t' earlier (all t' earlier member)).1,
      fun _ member => absurd member List.not_mem_nil⟩
  · exact fun _ member => absurd member List.not_mem_nil
  · exact fun _ member => absurd member List.not_mem_nil
  · obtain rfl : kind.buffer ⟨t, side⟩ = other := by simpa using waited
    exact ⟨by simp, still ▸ used t below⟩
  · rw [mark_succ, ← same]
    rfl

/-- The main thread requests an operation for the image of each lane. -/
theorem leads_requestEach {count : ℕ} {request : ℕ → IORequest} {kind : BufferKind} {side : Side}
    {new : BufferUse}
    (images : ∀ pp < count, (request pp).image = kind.buffer ⟨pp, side⟩)
    (kinds : ∀ pp < count, (request pp).use = new)
    (free : ∀ pp < count, use (kind.buffer ⟨pp, side⟩) = .free)
    (passive : ∀ t other, sent t other → other.images = []) :
    Leads config sent use (requestEach count request) sent (mark use kind side count new) := by
  induction count with
  | zero =>
      rw [mark_zero]
      exact Leads.nil
  | succ count ih =>
      have below := Nat.lt_succ_self count
      have before := ih (fun pp less => images pp (less.trans below))
        (fun pp less => kinds pp (less.trans below)) fun pp less => free pp (less.trans below)
      have split : requestEach (count + 1) request =
          requestEach count request ++ [.requestIOOperation (request count)] := by
        simp [requestEach, List.range_succ]
      rw [split]
      refine before.append fun ledger all same => ⟨⟨⟨?_, fun t message member =>
        passive t message (all t message member)⟩, trivial⟩, all, ?_⟩
      · rw [images count below, same]
        simpa [mark] using free count below
      · rw [mark_succ, ← same, ← images count below, ← kinds count below]
        rfl

/-- The ledger after each of the first threads was sent a message. -/
theorem advanceAll_sendEach (ledger : Ledger) (message : ℕ → Message)
    (noWait : ∀ t buffer, message t ≠ .waitForBufferRelease buffer) (count : ℕ) :
    ledger.advanceAll (sendEach count message) =
      { issued := fun t =>
          if t < count then ledger.issued t ++ [message t] else ledger.issued t
        use := ledger.use } := by
  induction count with
  | zero => simp [sendEach]
  | succ count ih =>
      rw [sendEach_succ, advanceAll_append, ih]
      simp only [advanceAll_cons, advanceAll_nil, advance]
      refine Ledger.ext (funext fun t => ?_) (use_send (noWait count))
      by_cases same : t = count
      · subst same
        simp [send]
      · have beyond : t < count + 1 ↔ t < count := by omega
        simp [send, same, beyond]

/-- The worker threads are sent to the barrier and the main thread waits for them. -/
theorem leads_synchronizeAllAndWait
    (harmless : (∀ t message, sent t message → Ordinary config t message) ∨
      ∀ t message, sent t message → Applying t message) :
    Leads config sent use (synchronizeAllAndWait config.numberOfThreads) Nothing (clear use) := by
  intro ledger all same
  have unsynchronized : ∀ t, ∀ message ∈ ledger.issued t, message.isSynchronize = false := by
    intro t message member
    rcases harmless with ordinary | applying
    · exact (ordinary t message (all t message member)).2
    · exact (applying t message (all t message member)).2
  have goes : ∀ t t', ∀ earlier ∈ ledger.issued t', Message.Compatible
      (projectionsPerStep config) t' earlier t (.synchronize .meAndAllWorkers) := by
    intro t t' earlier member
    rcases harmless with ordinary | applying
    · exact Or.inl ⟨(ordinary t' earlier (all t' earlier member)).1,
        fun _ looked => absurd looked List.not_mem_nil⟩
    · exact Or.inr ⟨(applying t' earlier (all t' earlier member)).1, trivial⟩
  have sends : ∀ count ≤ config.numberOfThreads, ledger.Conforms config
      (sendEach count fun _ => .synchronize .meAndAllWorkers) := by
    intro count threads
    induction count with
    | zero => exact trivial
    | succ count ih =>
        rw [sendEach_succ, conforms_append, advanceAll_sendEach ledger _ (by simp)]
        refine ⟨ih (Nat.le_of_succ_le threads), ⟨threads, ?_, fun t' _ earlier member => ?_, ?_, ?_,
          fun buffer waits => by simp at waits⟩, trivial⟩
        · simpa using unsynchronized count
        · simp only at member
          split_ifs at member with below
          · rcases List.mem_append.mp member with before | last
            · exact goes count t' earlier before
            · obtain rfl := List.mem_singleton.mp last
              exact Or.inr ⟨trivial, trivial⟩
          · exact goes count t' earlier member
        · exact fun _ looked => absurd looked List.not_mem_nil
        · exact fun _ looked => absurd looked List.not_mem_nil
  have after := advanceAll_sendEach ledger (fun _ => .synchronize .meAndAllWorkers)
    (by simp) config.numberOfThreads
  rw [synchronizeAllAndWait, conforms_append, advanceAll_append, after]
  refine ⟨⟨sends _ le_rfl, fun t thread => ?_, trivial⟩, fun t message member =>
    absurd member List.not_mem_nil, ?_⟩
  · simp [thread]
  · simp only [advanceAll_cons, advanceAll_nil, advance, Ledger.synchronize, same]
    rfl

/-- Statements that only ask for nothing to be pending. -/
theorem leads_quiet {actions : List MainAction}
    (quiet : ∀ action ∈ actions, ∀ ledger : Ledger, ledger.Synchronized → ledger.use = use →
      ledger.Allows config action ∧ ledger.advance action = ledger) :
    Leads config Nothing use actions Nothing use := by
  induction actions with
  | nil => exact Leads.nil
  | cons action rest ih =>
      intro ledger all same
      obtain ⟨allowed, still⟩ := quiet action List.mem_cons_self ledger all.synchronized same
      obtain ⟨conforms, all', same'⟩ := ih (fun other member =>
        quiet other (List.mem_cons_of_mem _ member)) ledger all same
      rw [Conforms, advanceAll_cons, still]
      exact ⟨⟨allowed, conforms⟩, all', same'⟩

/-- A loop whose body keeps the description of the ledger. -/
theorem leads_flatMap {Item : Type} {items : List Item} {actions : Item → List MainAction}
    (each : ∀ item ∈ items, Leads config sent use (actions item) sent use) :
    Leads config sent use (items.flatMap actions) sent use := by
  induction items with
  | nil => exact Leads.nil
  | cons item rest ih =>
      rw [List.flatMap_cons]
      exact (each item List.mem_cons_self).append
        (ih fun other member => each other (List.mem_cons_of_mem _ member))

/-- Every thread is sent the same back-projection. -/
theorem leads_applyProjection {projection : ImageSlot} (index : ℕ)
    (notReading : use (.filtered projection) ≠ .reading)
    (notAwaited : use (.filtered projection) ≠ .awaited) :
    Leads config Applying use
      (sendEach config.numberOfThreads fun _ => .applyProjection projection index)
      Applying use := by
  refine leads_sendEach (fun _ => use) rfl (fun t below ledger all same unsynchronized => ?_)
    (fun _ _ known => known.2) fun _ _ => ⟨trivial, rfl⟩
  subst same
  refine ⟨⟨below, unsynchronized, fun t' _ earlier member => ?_, ?_, fun buffer looked => ?_,
    fun buffer waits => by simp at waits⟩, rfl⟩
  · exact Or.inr ⟨(all t' earlier member).1, trivial⟩
  · exact fun _ looked => absurd looked List.not_mem_nil
  · obtain rfl : buffer = .filtered projection := by simpa [Message.images] using looked
    exact ⟨notReading, fun awaited => absurd awaited notAwaited⟩

/-- One thread writes out its subvolume while the others have nothing to do. -/
theorem leads_writeVolumeData {t : ℕ} (thread : t < config.numberOfThreads) :
    Leads config Nothing use (.setMessage t .writeVolumeData :: synchronizeOneAndWait t)
      Nothing (clear use) := by
  intro ledger all same
  have synchronized := all.synchronized
  have others : ∀ t' ≠ t, (ledger.send t .writeVolumeData).issued t' = [] := by
    intro t' different
    simp [send, different, synchronized t']
  refine ⟨⟨⟨thread, ?_, fun t' _ earlier member => ?_, ?_, ?_, fun buffer waits => by
    simp at waits⟩, ⟨thread, ?_, fun t' different earlier member => ?_, ?_, ?_, fun buffer waits =>
    by simp at waits⟩, ⟨t, thread, ?_, fun t' different => ?_⟩, trivial⟩,
    fun t' message member => absurd member List.not_mem_nil, ?_⟩
  · simp [synchronized t]
  · simp [synchronized t'] at member
  · exact fun _ looked => absurd looked List.not_mem_nil
  · exact fun _ looked => absurd looked List.not_mem_nil
  · simp [advance, send, synchronized t, Message.isSynchronize]
  · simp only [advance] at member
    rw [others t' different] at member
    exact absurd member List.not_mem_nil
  · exact fun _ looked => absurd looked List.not_mem_nil
  · exact fun _ looked => absurd looked List.not_mem_nil
  · simp [advance, send]
  · simp [advance, send, different, synchronized t']
  · simp only [advanceAll_cons, synchronizeOneAndWait, advanceAll_nil, advance,
      Ledger.synchronize, send, same]
    rfl

end Rules

end Ledger

end AthabascaRecon.MultiThreaded
