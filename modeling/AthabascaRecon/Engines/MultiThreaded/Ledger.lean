import AthabascaRecon.Engines.MultiThreaded.Program

/-!
# The ledger of the main thread

Nothing tells the main thread what the other threads are doing between two
barriers. It is safe because of what it has itself sent and requested, and that
is a matter of its list of statements alone. The ledger records it: the messages
sent since the last barrier, and for each image whether an IO request for it has
not been waited for.

A statement is allowed when the ledger shows that it does not interfere with
anything that may still be pending (`Ledger.Allows`). A list of statements
conforms when each statement is allowed by the ledger the earlier ones lead to.
-/

set_option autoImplicit false

namespace AthabascaRecon.MultiThreaded

open Foundation.Concurrency

/-- What the last IO request for an image was, until a barrier follows the message
that waits for it. -/
inductive BufferUse where
  | free
  | reading
  | writing
  | awaited
  deriving DecidableEq, Repr

def IORequest.use (request : IORequest) : BufferUse :=
  if request.isRead then .reading else .writing

/-- The messages sent since the last barrier, and the use of each image. -/
@[ext] structure Ledger where
  issued : ℕ → List Message
  use : Buffer → BufferUse

namespace Message

def isSynchronize : Message → Bool
  | .synchronize _ => true
  | _ => false

/-- A message that works on the images of one lane, and on the corrections that
fall to that lane when a step takes `lanes` projections. -/
def Local (lanes t : ℕ) : Message → Prop
  | .applyProjection _ _ => False
  | .writeVolumeData => False
  | .synchronize .meAndOneWorker => False
  | .correctBeamPower index projection => projection.lane = t ∧ index % lanes = t
  | message => ∀ buffer ∈ message.images, buffer.lane = t

/-- A message that reads images of any lane and changes none. -/
def Shared : Message → Prop
  | .applyProjection _ _ => True
  | .synchronize .meAndAllWorkers => True
  | _ => False

/-- Messages that two threads may execute at the same time. -/
def Compatible (lanes t : ℕ) (message : Message) (t' : ℕ) (message' : Message) : Prop :=
  (Local lanes t message ∧ Local lanes t' message') ∨ (Shared message ∧ Shared message')

theorem Compatible.symm {lanes t t' : ℕ} {message message' : Message}
    (compatible : Compatible lanes t message t' message') :
    Compatible lanes t' message' t message :=
  compatible.imp And.symm And.symm

end Message

namespace Ledger

/-- Nothing sent, and no image in use. -/
def empty : Ledger where
  issued _ := []
  use _ := .free

/-- Nothing was sent since the last barrier. -/
def Synchronized (ledger : Ledger) : Prop :=
  ∀ t, ledger.issued t = []

section Rules

variable (config : Config)

/-- When a message may be sent to a thread. -/
structure AllowsMessage (ledger : Ledger) (t : ℕ) (message : Message) : Prop where
  thread : t < config.numberOfThreads
  unsynchronized : ∀ earlier ∈ ledger.issued t, earlier.isSynchronize = false
  compatible : ∀ t' ≠ t, ∀ earlier ∈ ledger.issued t',
    Message.Compatible (projectionsPerStep config) t' earlier t message
  changes : ∀ buffer ∈ message.changedImages,
    ledger.use buffer = .free ∨ ledger.use buffer = .awaited
  reads : ∀ buffer ∈ message.images,
    ledger.use buffer ≠ .reading ∧ (ledger.use buffer = .awaited → buffer.lane = t)
  waits : ∀ buffer, message = .waitForBufferRelease buffer →
    buffer.lane = t ∧ (ledger.use buffer = .reading ∨ ledger.use buffer = .writing)

/-- When the main thread may execute a statement. -/
def Allows (ledger : Ledger) : MainAction → Prop
  | .setMessage t message => AllowsMessage config ledger t message
  | .requestIOOperation request =>
      ledger.use request.image = .free ∧
        ∀ t, ∀ message ∈ ledger.issued t, message.images = []
  | .barrierWait .meAndAllWorkers =>
      ∀ t < config.numberOfThreads, .synchronize .meAndAllWorkers ∈ ledger.issued t
  | .barrierWait .meAndOneWorker =>
      ∃ t < config.numberOfThreads, .synchronize .meAndOneWorker ∈ ledger.issued t ∧
        ∀ t' ≠ t, ledger.issued t' = []
  | .setReferenceProjection slot =>
      ledger.Synchronized ∧ ledger.use (.attenuation slot) ≠ .reading
  | .throwInternalError => False
  | _ => ledger.Synchronized

end Rules

/-- Send a message. An image it waits for is awaited from then on. -/
def send (ledger : Ledger) (t : ℕ) (message : Message) : Ledger where
  issued := Function.update ledger.issued t (ledger.issued t ++ [message])
  use := match message with
    | .waitForBufferRelease buffer => Function.update ledger.use buffer .awaited
    | _ => ledger.use

def request (ledger : Ledger) (request : IORequest) : Ledger :=
  { ledger with use := Function.update ledger.use request.image request.use }

/-- Behind a barrier all messages are executed, so what was awaited is free. -/
def synchronize (ledger : Ledger) : Ledger where
  issued _ := []
  use buffer := if ledger.use buffer = .awaited then .free else ledger.use buffer

def advance (ledger : Ledger) : MainAction → Ledger
  | .setMessage t message => ledger.send t message
  | .requestIOOperation request => ledger.request request
  | .barrierWait _ => ledger.synchronize
  | _ => ledger

/-- The ledger after a list of statements. -/
def advanceAll (ledger : Ledger) (actions : List MainAction) : Ledger :=
  actions.foldl advance ledger

/-- Every statement is allowed by the ledger in front of it. -/
def Conforms (config : Config) : Ledger → List MainAction → Prop
  | _, [] => True
  | ledger, action :: rest =>
      ledger.Allows config action ∧ Conforms config (ledger.advance action) rest

@[simp] theorem advanceAll_nil (ledger : Ledger) : ledger.advanceAll [] = ledger := rfl

@[simp] theorem advanceAll_cons (ledger : Ledger) (action : MainAction)
    (rest : List MainAction) :
    ledger.advanceAll (action :: rest) = (ledger.advance action).advanceAll rest := rfl

theorem advanceAll_append (ledger : Ledger) (first second : List MainAction) :
    ledger.advanceAll (first ++ second) = (ledger.advanceAll first).advanceAll second :=
  List.foldl_append

theorem conforms_append {config : Config} {ledger : Ledger} {first second : List MainAction} :
    Conforms config ledger (first ++ second) ↔
      Conforms config ledger first ∧ Conforms config (ledger.advanceAll first) second := by
  induction first generalizing ledger with
  | nil => simp [Conforms]
  | cons action rest ih => simp [Conforms, ih, and_assoc]

/-! ### What every ledger satisfies -/

/-- A thread that is sent to a barrier is sent nothing else, an image is awaited
by the thread of its lane and by one message, and what different threads were
sent is compatible. -/
structure WellFormed (config : Config) (ledger : Ledger) : Prop where
  thread : ∀ t, ∀ message ∈ ledger.issued t, t < config.numberOfThreads
  synchronizeLast : ∀ t before message after, ledger.issued t = before ++ message :: after →
    message.isSynchronize = true → after = []
  awaited : ∀ t buffer, .waitForBufferRelease buffer ∈ ledger.issued t →
    buffer.lane = t ∧ ledger.use buffer = .awaited
  once : ∀ t buffer, (ledger.issued t).count (.waitForBufferRelease buffer) ≤ 1
  compatible : ∀ t t', t ≠ t' → ∀ message ∈ ledger.issued t, ∀ message' ∈ ledger.issued t',
    Message.Compatible (projectionsPerStep config) t message t' message'

theorem wellFormed_empty (config : Config) : WellFormed config empty where
  thread _ _ member := absurd member List.not_mem_nil
  synchronizeLast _ _ _ _ split := by simp [empty] at split
  awaited _ _ member := absurd member List.not_mem_nil
  once _ _ := Nat.zero_le _
  compatible _ _ _ _ member := absurd member List.not_mem_nil

variable {config : Config} {ledger : Ledger}

theorem mem_send {t t' : ℕ} {message other : Message} :
    other ∈ (ledger.send t message).issued t' ↔
      other ∈ ledger.issued t' ∨ (t' = t ∧ other = message) := by
  by_cases same : t' = t
  · subst same
    simp [send]
  · simp [send, same]

/-- A message that is no wait leaves the use of images as it is. -/
theorem use_send {t : ℕ} {message : Message}
    (noWait : ∀ buffer, message ≠ .waitForBufferRelease buffer) :
    (ledger.send t message).use = ledger.use := by
  cases message with
  | waitForBufferRelease buffer => exact absurd rfl (noWait buffer)
  | _ => rfl

theorem WellFormed.send (wellFormed : ledger.WellFormed config) {t : ℕ} {message : Message}
    (allowed : ledger.AllowsMessage config t message) :
    (ledger.send t message).WellFormed config where
  thread t' other member := by
    rcases mem_send.mp member with earlier | ⟨rfl, -⟩
    · exact wellFormed.thread t' other earlier
    · exact allowed.thread
  synchronizeLast t' before other after split synchronizes := by
    by_cases same : t' = t
    · subst same
      rcases List.eq_nil_or_concat after with rfl | ⟨inner, last, rfl⟩
      · rfl
      · -- nothing is sent after a synchronize message
        have sent : ledger.issued t' ++ [message] = (before ++ other :: inner) ++ [last] := by
          simpa [Ledger.send] using split
        have earlier : other ∈ ledger.issued t' := by
          rw [(List.append_inj' sent rfl).1]
          simp
        rw [allowed.unsynchronized other earlier] at synchronizes
        cases synchronizes
    · exact wellFormed.synchronizeLast t' before other after
        (by simpa [Ledger.send, same] using split) synchronizes
  awaited t' buffer member := by
    rcases mem_send.mp member with earlier | ⟨rfl, rfl⟩
    · obtain ⟨lane, awaited⟩ := wellFormed.awaited t' buffer earlier
      refine ⟨lane, ?_⟩
      cases message with
      | waitForBufferRelease other =>
          by_cases same : buffer = other
          · subst same
            simp [Ledger.send]
          · simpa [Ledger.send, same] using awaited
      | _ => exact awaited
    · exact ⟨(allowed.waits buffer rfl).1, by simp [Ledger.send]⟩
  once t' buffer := by
    by_cases same : t' = t
    · subst same
      by_cases waits : message = .waitForBufferRelease buffer
      · -- an image in use is not awaited yet
        have fresh : .waitForBufferRelease buffer ∉ ledger.issued t' := by
          intro earlier
          have awaited := (wellFormed.awaited t' buffer earlier).2
          rcases (allowed.waits buffer waits).2 with used | used <;> simp [used] at awaited
        simp [Ledger.send, waits, List.count_eq_zero_of_not_mem fresh]
      · simpa [Ledger.send, waits] using wellFormed.once t' buffer
    · simpa [Ledger.send, same] using wellFormed.once t' buffer
  compatible t₁ t₂ different first member₁ second member₂ := by
    rcases mem_send.mp member₁ with earlier₁ | ⟨rfl, rfl⟩
    · rcases mem_send.mp member₂ with earlier₂ | ⟨rfl, rfl⟩
      · exact wellFormed.compatible t₁ t₂ different first earlier₁ second earlier₂
      · exact allowed.compatible t₁ different first earlier₁
    · rcases mem_send.mp member₂ with earlier₂ | ⟨rfl, -⟩
      · exact (allowed.compatible t₂ different.symm second earlier₂).symm
      · exact absurd rfl different

theorem WellFormed.request (wellFormed : ledger.WellFormed config) {request : IORequest}
    (free : ledger.use request.image = .free) :
    (ledger.request request).WellFormed config where
  thread := wellFormed.thread
  synchronizeLast := wellFormed.synchronizeLast
  awaited t buffer member := by
    obtain ⟨lane, awaited⟩ := wellFormed.awaited t buffer member
    refine ⟨lane, ?_⟩
    have different : buffer ≠ request.image := by
      rintro rfl
      rw [free] at awaited
      cases awaited
    simpa [Ledger.request, different] using awaited
  once := wellFormed.once
  compatible := wellFormed.compatible

theorem wellFormed_synchronize : ledger.synchronize.WellFormed config where
  thread _ _ member := absurd member List.not_mem_nil
  synchronizeLast _ _ _ _ split := by simp [synchronize] at split
  awaited _ _ member := absurd member List.not_mem_nil
  once _ _ := Nat.zero_le _
  compatible _ _ _ _ member := absurd member List.not_mem_nil

/-- Every allowed statement leads to a well formed ledger. -/
theorem WellFormed.advance (wellFormed : ledger.WellFormed config) {action : MainAction}
    (allowed : ledger.Allows config action) : (ledger.advance action).WellFormed config := by
  cases action with
  | setMessage t message => exact wellFormed.send allowed
  | requestIOOperation request => exact wellFormed.request allowed.1
  | barrierWait barrier => exact wellFormed_synchronize
  | _ => exact wellFormed

end Ledger

/-! ## Allowed statements do not interfere -/

section Independence

variable (stages : Stages)

/-- The locations a message may change. -/
theorem mem_writes_performMessage {t : ℕ} {message : Message} {location : Location}
    (member : location ∈ (performMessage stages t message).writes) :
    (∃ buffer ∈ message.changedImages, location = .image buffer) ∨
      location = .threadWorker t ∨
      (∃ index projection, message = .correctBeamPower index projection ∧
        location = .correction index) ∨
      (message = .writeVolumeData ∧ location = .volumeWriter) := by
  cases message <;>
    simp [performMessage, assign, Command.assign, Command.skip, changeThreadWorker,
      correctBeamPower, Command.andThen, applyProjection, writeVolumeData,
      Message.changedImages] at member ⊢ <;> grind

/-- The locations a message may look at or change. -/
theorem touches_performMessage {t : ℕ} {message : Message} {location : Location}
    (touched : (performMessage stages t message).Touches location) :
    (∃ buffer ∈ message.images, location = .image buffer) ∨
      location = .threadWorker t ∨
      (∃ index projection, message = .correctBeamPower index projection ∧
        (location = .correction index ∨ location = .beamPowerCorrector)) ∨
      (message = .writeVolumeData ∧ location = .volumeWriter) := by
  cases message <;>
    simp [performMessage, assign, Command.assign, Command.skip, changeThreadWorker,
      correctBeamPower, Command.andThen, applyProjection, writeVolumeData, Message.images,
      Command.Touches] at touched ⊢ <;> grind

theorem changedImages_subset_images (message : Message) :
    message.changedImages ⊆ message.images := by
  cases message <;> simp [Message.changedImages, Message.images]

/-- The locations an IO operation may change. -/
theorem mem_writes_performRequest {request : IORequest} {location : Location}
    (member : location ∈ (performRequest stages request).writes) :
    (request.isRead = true ∧ location = .image request.image) ∨
      location = .projectionsReader ∨ location = .attenuationProjectionsWriter ∨
      location = .filteredProjectionsWriter := by
  cases request <;>
    simp [performRequest, assign, Command.assign, Command.andThen, nextProjection,
      IORequest.isRead, IORequest.image] at member ⊢ <;> grind

/-- The locations an IO operation may look at or change. -/
theorem touches_performRequest {request : IORequest} {location : Location}
    (touched : (performRequest stages request).Touches location) :
    location = .image request.image ∨ location = .projectionsReader ∨
      location = .attenuationProjectionsWriter ∨ location = .filteredProjectionsWriter := by
  cases request <;>
    simp [performRequest, assign, Command.assign, Command.andThen, nextProjection,
      IORequest.image, Command.Touches] at touched ⊢ <;> grind

/-- A message and an IO operation are independent when the message does not change
the image, and does not look at it either if the operation reads into it. -/
theorem independent_message_request {t : ℕ} {message : Message} {request : IORequest}
    (unchanged : request.image ∉ message.changedImages)
    (unread : request.isRead = true → request.image ∉ message.images) :
    (performMessage stages t message).Independent (performRequest stages request) := by
  constructor
  · intro location member touched
    have byMessage := mem_writes_performMessage stages member
    have byRequest := touches_performRequest stages touched
    grind
  · intro location member touched
    have byRequest := mem_writes_performRequest stages member
    have byMessage := touches_performMessage stages touched
    grind

/-- The locations that belong to one lane. -/
def Location.OwnedBy (lanes t : ℕ) : Location → Prop
  | .image buffer => buffer.lane = t
  | .correction index => index % lanes = t
  | .threadWorker t' => t' = t
  | _ => False

theorem Location.OwnedBy.unique {lanes t t' : ℕ} {location : Location}
    (owned : location.OwnedBy lanes t) (owned' : location.OwnedBy lanes t') : t = t' := by
  cases location <;> simp_all [Location.OwnedBy]

theorem ownedBy_of_local {lanes t : ℕ} {message : Message} (isLocal : message.Local lanes t)
    {location : Location} (touched : (performMessage stages t message).Touches location) :
    location.OwnedBy lanes t ∨ location = .beamPowerCorrector := by
  have places := touches_performMessage stages touched
  cases message with
  | synchronize barrier =>
      have own : location = .threadWorker t := by simpa [Message.images] using places
      exact Or.inl (own ▸ rfl)
  | _ =>
      simp [Message.Local, Message.images] at isLocal places <;>
        grind [Location.OwnedBy, Buffer.lane, Buffer.slot]

theorem changes_ownedBy_of_local {lanes t : ℕ} {message : Message}
    (isLocal : message.Local lanes t) {location : Location}
    (member : location ∈ (performMessage stages t message).writes) :
    location.OwnedBy lanes t := by
  rcases ownedBy_of_local stages isLocal (Or.inr member) with owned | rfl
  · exact owned
  · -- no message changes the reference
    have places := mem_writes_performMessage stages member
    simp at places

/-- Local messages of different threads are independent. -/
theorem independent_of_local {lanes t t' : ℕ} {message message' : Message}
    (different : t ≠ t') (isLocal : message.Local lanes t) (isLocal' : message'.Local lanes t') :
    (performMessage stages t message).Independent (performMessage stages t' message') := by
  constructor
  · intro location member touched
    have owned := changes_ownedBy_of_local stages isLocal member
    rcases ownedBy_of_local stages isLocal' touched with owned' | rfl
    · exact different (owned.unique owned')
    · exact owned
  · intro location member touched
    have owned' := changes_ownedBy_of_local stages isLocal' member
    rcases ownedBy_of_local stages isLocal touched with owned | rfl
    · exact different (owned.unique owned')
    · exact owned'

/-- Back-projections into different subvolumes are independent. -/
theorem independent_of_shared {t t' : ℕ} {message message' : Message}
    (different : t ≠ t') (shared : message.Shared) (shared' : message'.Shared) :
    (performMessage stages t message).Independent (performMessage stages t' message') := by
  constructor
  · intro location member touched
    have places := mem_writes_performMessage stages member
    have places' := touches_performMessage stages touched
    cases message <;> cases message' <;> simp_all [Message.Shared, Message.changedImages]
  · intro location member touched
    have places := mem_writes_performMessage stages member
    have places' := touches_performMessage stages touched
    cases message <;> cases message' <;> simp_all [Message.Shared, Message.changedImages]

/-- Messages that may be executed at the same time are independent. -/
theorem independent_of_compatible {lanes t t' : ℕ} {message message' : Message}
    (different : t ≠ t') (compatible : Message.Compatible lanes t message t' message') :
    (performMessage stages t message).Independent (performMessage stages t' message') := by
  rcases compatible with ⟨isLocal, isLocal'⟩ | ⟨shared, shared'⟩
  · exact independent_of_local stages different isLocal isLocal'
  · exact independent_of_shared stages different shared shared'

end Independence

end AthabascaRecon.MultiThreaded
