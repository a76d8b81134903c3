import AthabascaRecon.Engines.MultiThreaded.Sides

/-!
# The program of an accepted configuration conforms

Block by block, the statements of `ExecuteOnThreads` lead from one description of
the ledger to the next. An iteration begins with nothing but waits and the
creation of objects pending, and with the images of each kind in the use that
`KindUse` describes, and it leads there again for the next iteration.
-/

set_option autoImplicit false

namespace AthabascaRecon.MultiThreaded

open Ledger

theorem attenuation_ne_raw : BufferKind.attenuation ≠ .raw := by simp

theorem filtered_ne_raw : BufferKind.filtered ≠ .raw := by simp

theorem filtered_ne_attenuation : BufferKind.filtered ≠ .attenuation := by simp

/-- The use of all images in front of iteration `k`. -/
structure GroupUse (config : Config) (k : ℕ) (use : Buffer → BufferUse) : Prop where
  raw : KindUse config k config.rawProjectionsReader false .raw use
  attenuation : KindUse config k config.attenuationProjectionsReader
    config.attenuationProjectionsWriter .attenuation use
  filtered : KindUse config k config.filteredProjectionsReader config.filteredProjectionsWriter
    .filtered use

/-- The use of all images within iteration `k`. -/
structure GroupHeld (config : Config) (k : ℕ) (use : Buffer → BufferUse) : Prop where
  raw : KindHeld config k config.rawProjectionsReader false .raw use
  attenuation : KindHeld config k config.attenuationProjectionsReader
    config.attenuationProjectionsWriter .attenuation use
  filtered : KindHeld config k config.filteredProjectionsReader config.filteredProjectionsWriter
    .filtered use

section Blocks

variable {config : Config} {use : Buffer → BufferUse} {sent : ℕ → Message → Prop}

/-- Each thread is sent a message that works on free images of its own lane. -/
theorem leads_sendOwn {count : ℕ} {message : ℕ → Message}
    (threads : count ≤ config.numberOfThreads)
    (ordinary : ∀ t < count, Ordinary config t (message t))
    (noWait : ∀ t < count, ∀ buffer, message t ≠ .waitForBufferRelease buffer)
    (own : ∀ t < count, ∀ buffer ∈ (message t).images,
      buffer.lane = t ∧ (use buffer = .free ∨ use buffer = .awaited)) :
    Leads config (Ordinary config) use (sendEach count message) (Ordinary config) use := by
  refine leads_sendLocal threads ordinary noWait (fun t below buffer changed => ?_)
    fun t below buffer looked => ⟨?_, fun _ => (own t below buffer looked).1⟩
  · exact (own t below buffer (changedImages_subset_images _ changed)).2
  · rcases (own t below buffer looked).2 with free | awaited
    · simp [free]
    · simp [awaited]

theorem leads_synchronizeAndCheck {sent : ℕ → Message → Prop} (p : ℕ)
    (harmless : (∀ t message, sent t message → Ordinary config t message) ∨
      ∀ t message, sent t message → Applying t message) :
    Leads config sent use (synchronizeAndCheck config p) Nothing (clear use) := by
  refine (leads_synchronizeAllAndWait harmless).append (leads_quiet ?_)
  intro action member ledger synchronized _
  obtain ⟨t, -, rfl⟩ := List.mem_map.mp member
  exact ⟨synchronized, rfl⟩

variable {k : ℕ} {kind : BufferKind}

/-- The images of a kind that is written are waited for. -/
theorem leads_release (threads : 0 < config.numberOfThreads)
    (positive : 0 < projectionsPerStep config) {buffer : ℕ → Buffer}
    (images : ∀ pp < projectionsThisStep config (k * projectionsPerStep config),
      buffer pp = kind.buffer ⟨pp, sideOf k⟩)
    (before : KindUse config k false true kind use)
    (waits : ∀ t other, Passive config t other → sent t other)
    (ordinary : ∀ t other, sent t other → Ordinary config t other) :
    Leads config sent use
      (if projectionsPerStep config < k * projectionsPerStep config then
        sendEach (projectionsThisStep config (k * projectionsPerStep config)) fun pp =>
          .waitForBufferRelease (buffer pp)
      else [])
      sent (releasedUse config k kind use) := by
  unfold releasedUse
  simp only [two_le_iff positive]
  refine Leads.ite (fun later => ?_) fun _ => Leads.nil
  exact leads_waitEach ((projectionsThisStep_le _).trans (projectionsPerStep_le threads)) images
    ((before.written rfl later).le (projectionsThisStep_le _)) waits ordinary

/-- The images of a kind that is read: the next group is requested and the threads
are told to wait for this one. -/
theorem leads_read (threads : 0 < config.numberOfThreads) {request : ℕ → IORequest}
    {buffer : ℕ → Buffer}
    (requested : ∀ pp < projectionsNextStep config (k * projectionsPerStep config),
      (request pp).image = kind.buffer ⟨pp, sideOf (k + 1)⟩ ∧ (request pp).isRead = true)
    (images : ∀ pp < projectionsThisStep config (k * projectionsPerStep config),
      buffer pp = kind.buffer ⟨pp, sideOf k⟩)
    (before : KindUse config k true false kind use) :
    Leads config (Passive config) use
      (requestEach (projectionsNextStep config (k * projectionsPerStep config)) request ++
        sendEach (projectionsThisStep config (k * projectionsPerStep config)) fun pp =>
          .waitForBufferRelease (buffer pp))
      (Passive config) (readUse config k kind use) := by
  refine (leads_requestEach (fun pp below => (requested pp below).1)
    (fun pp below => show (request pp).use = .reading by
      simp [IORequest.use, (requested pp below).2])
    ((before.unread rfl).le (projectionsNextStep_le _)) fun t other known => known.2).append ?_
  exact leads_waitEach ((projectionsThisStep_le _).trans (projectionsPerStep_le threads)) images
    ((before.read rfl).mark (Or.inr (sideOf_succ_ne k).symm)) (fun _ _ known => known)
    fun _ _ known => known.1

/-- The images of a kind that may be written are waited for if they are. -/
theorem leads_releaseWritten (threads : 0 < config.numberOfThreads)
    (positive : 0 < projectionsPerStep config) {writes : Bool} {buffer : ℕ → Buffer}
    (images : writes = true → ∀ pp < projectionsThisStep config (k * projectionsPerStep config),
      buffer pp = kind.buffer ⟨pp, sideOf k⟩)
    (before : KindUse config k false writes kind use)
    (waits : ∀ t other, Passive config t other → sent t other)
    (ordinary : ∀ t other, sent t other → Ordinary config t other) :
    Leads config sent use
        (if writes then
          if projectionsPerStep config < k * projectionsPerStep config then
            sendEach (projectionsThisStep config (k * projectionsPerStep config)) fun pp =>
              .waitForBufferRelease (buffer pp)
          else []
        else [])
        sent (if writes then releasedUse config k kind use else use) ∧
      KindHeld config k false writes kind
        (if writes then releasedUse config k kind use else use) := by
  cases writes with
  | true =>
    exact ⟨leads_release threads positive (images rfl) before waits ordinary, before.release⟩
  | false => exact ⟨Leads.nil, before.hold⟩

end Blocks

/-! ## The use after a block -/

section Uses

variable {config : Config} {use : Buffer → BufferUse} {k : ℕ}

/-- The use of the attenuation images after the block in front of the raw branch. -/
def attenuationReleased (config : Config) (k : ℕ) (use : Buffer → BufferUse) :
    Buffer → BufferUse :=
  if config.attenuationProjectionsWriter then releasedUse config k .attenuation use else use

def filteredReleased (config : Config) (k : ℕ) (use : Buffer → BufferUse) :
    Buffer → BufferUse :=
  if config.filteredProjectionsWriter then releasedUse config k .filtered use else use

/-- The use after beam power correction, which synchronizes in the first iteration. -/
def beamUse (config : Config) (k : ℕ) (use : Buffer → BufferUse) : Buffer → BufferUse :=
  if config.beamPowerCorrector = true ∧ k = 0 then clear use else use

variable {reads writes : Bool} {kind : BufferKind}

namespace Ledger

theorem KindUse.attenuationReleased (before : KindUse config k reads writes kind use)
    (other : kind ≠ .attenuation) :
    KindUse config k reads writes kind (attenuationReleased config k use) := by
  unfold MultiThreaded.attenuationReleased releasedUse
  split_ifs
  · exact before.mark other
  · exact before
  · exact before

theorem KindUse.readUse (before : KindUse config k reads writes kind use) {kind' : BufferKind}
    (other : kind ≠ kind') :
    KindUse config k reads writes kind (Ledger.readUse config k kind' use) :=
  (before.mark other).mark other

theorem KindUse.beamUse (before : KindUse config k reads writes kind use) :
    KindUse config k reads writes kind (beamUse config k use) := by
  unfold MultiThreaded.beamUse
  split_ifs
  · exact before.clear
  · exact before

theorem KindHeld.readUse (held : KindHeld config k reads writes kind use) {kind' : BufferKind}
    (other : kind ≠ kind') :
    KindHeld config k reads writes kind (Ledger.readUse config k kind' use) :=
  (held.mark other).mark other

theorem KindHeld.beamUse (held : KindHeld config k reads writes kind use) :
    KindHeld config k reads writes kind (beamUse config k use) := by
  unfold MultiThreaded.beamUse
  split_ifs
  · exact held.clear
  · exact held

theorem KindHeld.filteredReleased (held : KindHeld config k reads writes kind use)
    (other : kind ≠ .filtered) :
    KindHeld config k reads writes kind (filteredReleased config k use) := by
  unfold MultiThreaded.filteredReleased releasedUse
  split_ifs
  · exact held.mark other
  · exact held
  · exact held

end Ledger

end Uses

/-! ## The blocks of an iteration -/

section Iteration

variable {config : Config} {use : Buffer → BufferUse} {k : ℕ} {buffers : Buffers}
  (sides : Sides config (k + 1) buffers)

include sides

/-- What a message that works on the active attenuation images may do. -/
theorem attenuation_own (held : KindHeld config k config.attenuationProjectionsReader
    config.attenuationProjectionsWriter .attenuation use) {pp : ℕ}
    (below : pp < projectionsThisStep config (k * projectionsPerStep config)) :
    (Buffer.attenuation (buffers.attenuationActive pp)).lane = pp ∧
      (use (.attenuation (buffers.attenuationActive pp)) = .free ∨
        use (.attenuation (buffers.attenuationActive pp)) = .awaited) := by
  rw [sides.attenuationActive (below.trans_le (projectionsThisStep_le _))]
  exact ⟨rfl, held.available pp below⟩

/-- The active attenuation images as the only images of a message. -/
theorem attenuation_only (held : KindHeld config k config.attenuationProjectionsReader
    config.attenuationProjectionsWriter .attenuation use) :
    ∀ pp < projectionsThisStep config (k * projectionsPerStep config),
      ∀ buffer ∈ [Buffer.attenuation (buffers.attenuationActive pp)],
        buffer.lane = pp ∧ (use buffer = .free ∨ use buffer = .awaited) := by
  intro pp below buffer looked
  obtain rfl := List.mem_singleton.mp looked
  exact attenuation_own sides held below

theorem filtered_own (held : KindHeld config k config.filteredProjectionsReader
    config.filteredProjectionsWriter .filtered use) {pp : ℕ}
    (below : pp < projectionsThisStep config (k * projectionsPerStep config)) :
    (Buffer.filtered (buffers.filteredActive pp)).lane = pp ∧
      (use (.filtered (buffers.filteredActive pp)) = .free ∨
        use (.filtered (buffers.filteredActive pp)) = .awaited) := by
  rw [sides.filteredActive (below.trans_le (projectionsThisStep_le _))]
  exact ⟨rfl, held.available pp below⟩

variable (threads : 0 < config.numberOfThreads)

include threads

theorem leads_correctBadPixels (held : KindHeld config k config.attenuationProjectionsReader
    config.attenuationProjectionsWriter .attenuation use) :
    Leads config (Ordinary config) use
      (sendEach (projectionsThisStep config (k * projectionsPerStep config)) fun pp =>
        .correctBadPixels (buffers.attenuationActive pp))
      (Ordinary config) use := by
  have own := attenuation_only sides held
  exact leads_sendOwn ((projectionsThisStep_le _).trans (projectionsPerStep_le threads))
    (fun pp below => ⟨fun buffer looked => (own pp below buffer looked).1, rfl⟩) (by simp) own

theorem leads_convertToAttenuation (raw : config.rawProjectionsReader = true)
    (heldRaw : KindHeld config k true false .raw use)
    (held : KindHeld config k config.attenuationProjectionsReader
      config.attenuationProjectionsWriter .attenuation use) :
    Leads config (Ordinary config) use
      (sendEach (projectionsThisStep config (k * projectionsPerStep config)) fun pp =>
        .convertToAttenuation (buffers.rawActive pp) (buffers.attenuationActive pp))
      (Ordinary config) use := by
  have own : ∀ pp < projectionsThisStep config (k * projectionsPerStep config),
      ∀ buffer ∈ [Buffer.raw (buffers.rawActive pp),
        Buffer.attenuation (buffers.attenuationActive pp)],
        buffer.lane = pp ∧ (use buffer = .free ∨ use buffer = .awaited) := by
    intro pp below buffer looked
    rcases List.mem_cons.mp looked with rfl | looked
    · rw [sides.rawActive (below.trans_le (projectionsThisStep_le _)) raw]
      exact ⟨rfl, heldRaw.available pp below⟩
    · obtain rfl := List.mem_singleton.mp looked
      exact attenuation_own sides held below
  exact leads_sendOwn ((projectionsThisStep_le _).trans (projectionsPerStep_le threads))
    (fun pp below => ⟨fun buffer looked => (own pp below buffer looked).1, rfl⟩) (by simp) own

theorem leads_filterProjection (heldAttenuation : KindHeld config k
      config.attenuationProjectionsReader config.attenuationProjectionsWriter .attenuation use)
    (held : KindHeld config k config.filteredProjectionsReader config.filteredProjectionsWriter
      .filtered use) :
    Leads config (Ordinary config) use
      (sendEach (projectionsThisStep config (k * projectionsPerStep config)) fun pp =>
        .filterProjection (buffers.attenuationActive pp) (buffers.filteredActive pp))
      (Ordinary config) use := by
  have own : ∀ pp < projectionsThisStep config (k * projectionsPerStep config),
      ∀ buffer ∈ [Buffer.attenuation (buffers.attenuationActive pp),
        Buffer.filtered (buffers.filteredActive pp)],
        buffer.lane = pp ∧ (use buffer = .free ∨ use buffer = .awaited) := by
    intro pp below buffer looked
    rcases List.mem_cons.mp looked with rfl | looked
    · exact attenuation_own sides heldAttenuation below
    · obtain rfl := List.mem_singleton.mp looked
      exact filtered_own sides held below
  exact leads_sendOwn ((projectionsThisStep_le _).trans (projectionsPerStep_le threads))
    (fun pp below => ⟨fun buffer looked => (own pp below buffer looked).1, rfl⟩) (by simp) own

theorem leads_correctBeamPowers (projections : 0 < config.numberOfProjections)
    (held : KindHeld config k config.attenuationProjectionsReader
      config.attenuationProjectionsWriter .attenuation use) :
    Leads config (Ordinary config) use
      (correctBeamPowers config (k * projectionsPerStep config) buffers)
      (Ordinary config) (beamUse config k use) := by
  have positive := projectionsPerStep_pos threads projections
  by_cases beam : config.beamPowerCorrector = true
  · simp only [correctBeamPowers, beam, if_true, beamUse, true_and]
    have lanes : ∀ pp < projectionsThisStep config (k * projectionsPerStep config),
        (k * projectionsPerStep config + pp) % projectionsPerStep config = pp := by
      intro pp below
      rw [Nat.mul_add_mod_of_lt (below.trans_le (projectionsThisStep_le _))]
    have corrects : ∀ use, KindHeld config k config.attenuationProjectionsReader
        config.attenuationProjectionsWriter .attenuation use →
        Leads config (Ordinary config) use
          (sendEach (projectionsThisStep config (k * projectionsPerStep config)) fun pp =>
            .correctBeamPower (k * projectionsPerStep config + pp)
              (buffers.attenuationActive pp))
          (Ordinary config) use := by
      intro use held
      exact leads_sendOwn ((projectionsThisStep_le _).trans (projectionsPerStep_le threads))
        (fun pp below => ⟨⟨(attenuation_own sides held below).1, lanes pp below⟩, rfl⟩)
        (by simp) (attenuation_only sides held)
    by_cases first : k = 0
    · subst first
      simp only [Nat.zero_mul, if_true]
      have reference : Leads config Nothing (clear use)
          [.setReferenceProjection (buffers.attenuationActive 0)] Nothing (clear use) := by
        refine leads_quiet fun action member ledger synchronized same => ?_
        obtain rfl := List.mem_singleton.mp member
        refine ⟨⟨synchronized, ?_⟩, rfl⟩
        have some : 0 < projectionsThisStep config (0 * projectionsPerStep config) := by
          unfold projectionsThisStep
          omega
        rw [same]
        rcases (attenuation_own sides held.clear some).2 with free | awaited
        · simp [free]
        · simp [awaited]
      have after := corrects (clear use) held.clear
      simp only [Nat.zero_mul] at after
      refine ((leads_synchronizeAllAndWait (Or.inl fun _ _ known => known)).append
        reference).append ?_
      exact after.weaken (fun _ _ never => never.elim) fun _ _ known => known
    · have later : k * projectionsPerStep config ≠ 0 :=
        Nat.mul_ne_zero first positive.ne'
      simp only [first, later, if_false, List.nil_append]
      exact corrects use held
  · simp only [correctBeamPowers, beam, beamUse]
    exact Leads.nil

theorem leads_releaseAttenuation (projections : 0 < config.numberOfProjections)
    (notRead : config.attenuationProjectionsReader = false)
    (before : KindUse config k config.attenuationProjectionsReader
      config.attenuationProjectionsWriter .attenuation use) :
    Leads config (Passive config) use
        (releaseAttenuation config (k * projectionsPerStep config) buffers)
        (Passive config) (attenuationReleased config k use) ∧
      KindHeld config k config.attenuationProjectionsReader config.attenuationProjectionsWriter
        .attenuation (attenuationReleased config k use) := by
  rw [notRead] at before ⊢
  refine leads_releaseWritten threads (projectionsPerStep_pos threads projections)
    (fun writes pp below => ?_) before (fun _ _ known => known) fun _ _ known => known.1
  rw [sides.attenuationActive (below.trans_le (projectionsThisStep_le _))]
  simp [activeSide, writes, BufferKind.buffer]

theorem leads_releaseFiltered (projections : 0 < config.numberOfProjections)
    (notRead : config.filteredProjectionsReader = false)
    (before : KindUse config k config.filteredProjectionsReader
      config.filteredProjectionsWriter .filtered use) {sent : ℕ → Message → Prop}
    (waits : ∀ t other, Passive config t other → sent t other)
    (ordinary : ∀ t other, sent t other → Ordinary config t other) :
    Leads config sent use (releaseFiltered config (k * projectionsPerStep config) buffers)
        sent (filteredReleased config k use) ∧
      KindHeld config k config.filteredProjectionsReader config.filteredProjectionsWriter
        .filtered (filteredReleased config k use) := by
  rw [notRead] at before ⊢
  refine leads_releaseWritten threads (projectionsPerStep_pos threads projections)
    (fun writes pp below => ?_) before waits ordinary
  rw [sides.filteredActive (below.trans_le (projectionsThisStep_le _))]
  simp [activeSide, writes, BufferKind.buffer]

/-- The raw branch reads, converts and corrects the projections of the group. -/
theorem leads_processRaw (projections : 0 < config.numberOfProjections)
    (raw : config.rawProjectionsReader = true)
    (before : KindUse config k true false .raw use)
    (held : KindHeld config k config.attenuationProjectionsReader
      config.attenuationProjectionsWriter .attenuation use) :
    Leads config (Passive config) use (processRaw config (k * projectionsPerStep config) buffers)
      (Ordinary config) (beamUse config k (readUse config k .raw use)) := by
  have heldRaw : KindHeld config k true false .raw (readUse config k .raw use) :=
    KindUse.readNext
  have held' : KindHeld config k config.attenuationProjectionsReader
      config.attenuationProjectionsWriter .attenuation (readUse config k .raw use) :=
    (held.mark (by simp)).mark (by simp)
  have reads : Leads config (Passive config) use
      (requestEach (projectionsNextStep config (k * projectionsPerStep config))
          (fun pp => .readRaw (buffers.rawLoading pp)) ++
        sendEach (projectionsThisStep config (k * projectionsPerStep config))
          (fun pp => .waitForBufferRelease (.raw (buffers.rawActive pp))))
      (Passive config) (readUse config k .raw use) := by
    refine leads_read threads (fun pp below => ?_) (fun pp below => ?_) before
    · simp [sides.rawLoading (below.trans_le (projectionsNextStep_le _)) raw, IORequest.image,
        IORequest.isRead, BufferKind.buffer]
    · simp [sides.rawActive (below.trans_le (projectionsThisStep_le _)) raw, BufferKind.buffer]
  have badPixels : Leads config (Ordinary config) (readUse config k .raw use)
      (if config.badPixelCorrector then
        sendEach (projectionsThisStep config (k * projectionsPerStep config)) fun pp =>
          .correctBadPixels (buffers.attenuationActive pp)
      else []) (Ordinary config) (readUse config k .raw use) := by
    split_ifs
    · exact leads_correctBadPixels sides threads held'
    · exact Leads.nil
  unfold processRaw
  rw [if_pos raw]
  refine ((Leads.append ?_ (leads_convertToAttenuation sides threads raw heldRaw held')).append
    badPixels).append (leads_correctBeamPowers sides threads projections held')
  exact reads.weaken (fun _ _ known => known) fun _ _ known => known.1

theorem leads_readAttenuation (reads : config.attenuationProjectionsReader = true)
    (before : KindUse config k true false .attenuation use) :
    Leads config (Passive config) use
      (readAttenuation config (k * projectionsPerStep config) buffers)
      (Passive config) (readUse config k .attenuation use) := by
  unfold readAttenuation
  rw [if_pos reads]
  refine leads_read threads (fun pp below => ?_) (fun pp below => ?_) before
  · simp [sides.attenuationLoading (below.trans_le (projectionsNextStep_le _)) reads,
      IORequest.image, IORequest.isRead, BufferKind.buffer]
  · simp [sides.attenuationActive (below.trans_le (projectionsThisStep_le _)), activeSide, reads,
      BufferKind.buffer]

theorem leads_readFiltered (reads : config.filteredProjectionsReader = true)
    (before : KindUse config k true false .filtered use) :
    Leads config (Passive config) use
      (filterProjections config (k * projectionsPerStep config) buffers)
      (Passive config) (readUse config k .filtered use) := by
  unfold filterProjections
  rw [if_pos reads]
  refine leads_read threads (fun pp below => ?_) (fun pp below => ?_) before
  · simp [sides.filteredLoading (below.trans_le (projectionsNextStep_le _)) reads,
      IORequest.image, IORequest.isRead, BufferKind.buffer]
  · simp [sides.filteredActive (below.trans_le (projectionsThisStep_le _)), activeSide, reads,
      BufferKind.buffer]

theorem leads_filterProjections (notRead : config.filteredProjectionsReader = false)
    (held : GroupHeld config k use) :
    Leads config (Ordinary config) use
      (filterProjections config (k * projectionsPerStep config) buffers)
      (Ordinary config) use := by
  unfold filterProjections
  rw [if_neg (by simp [notRead])]
  split_ifs
  · exact leads_filterProjection sides threads held.attenuation held.filtered
  · exact Leads.nil

/-- The part of an iteration in front of the barrier. -/
def prepareGroup (config : Config) (p : ℕ) (buffers : Buffers) : List MainAction :=
  releaseAttenuation config p buffers ++ processRaw config p buffers ++
    readAttenuation config p buffers ++ releaseFiltered config p buffers ++
    filterProjections config p buffers

/-- The part in front of the barrier conforms, and leaves the images of the group held. -/
def GroupPrepared (config : Config) (k : ℕ) (buffers : Buffers) (use : Buffer → BufferUse) :
    Prop :=
  ∃ use', Leads config (Passive config) use
      (prepareGroup config (k * projectionsPerStep config) buffers) (Ordinary config) use' ∧
    GroupHeld config k use'

theorem groupPrepared_of_raw (projections : 0 < config.numberOfProjections)
    (raw : config.rawProjectionsReader = true)
    (attenuation : config.attenuationProjectionsReader = false)
    (filtered : config.filteredProjectionsReader = false) (before : GroupUse config k use) :
    GroupPrepared config k buffers use := by
  have same : ∀ t message, Ordinary config t message → Ordinary config t message :=
    fun _ _ known => known
  have passive : ∀ t message, Passive config t message → Ordinary config t message :=
    fun _ _ known => known.1
  obtain ⟨beforeRaw, beforeAttenuation, beforeFiltered⟩ := before
  obtain ⟨releases, held⟩ :=
    leads_releaseAttenuation sides threads projections attenuation beforeAttenuation
  rw [raw] at beforeRaw
  have processes := leads_processRaw sides threads projections raw
    (beforeRaw.attenuationReleased (by simp)) held
  have beforeFiltered' := ((beforeFiltered.attenuationReleased filtered_ne_attenuation).readUse
    filtered_ne_raw).beamUse
  obtain ⟨releases', heldFiltered⟩ :=
    leads_releaseFiltered sides threads projections filtered beforeFiltered' passive same
  have heldRaw : KindHeld config k config.rawProjectionsReader false .raw
      (beamUse config k (readUse config k .raw (attenuationReleased config k use))) := by
    rw [raw]
    exact KindUse.readNext.beamUse
  have group : GroupHeld config k (filteredReleased config k
      (beamUse config k (readUse config k .raw (attenuationReleased config k use)))) :=
    ⟨heldRaw.filteredReleased (by simp),
      ((held.readUse (by simp)).beamUse).filteredReleased (by simp), heldFiltered⟩
  have skips : readAttenuation config (k * projectionsPerStep config) buffers = [] := by
    simp [readAttenuation, attenuation]
  refine ⟨_, ?_, group⟩
  rw [prepareGroup, skips, List.append_nil]
  exact ((releases.append processes).append releases').append
    (leads_filterProjections sides threads filtered group)

theorem groupPrepared_of_attenuation (accepted : config.Accepted)
    (projections : 0 < config.numberOfProjections) (raw : config.rawProjectionsReader = false)
    (attenuation : config.attenuationProjectionsReader = true)
    (filtered : config.filteredProjectionsReader = false) (before : GroupUse config k use) :
    GroupPrepared config k buffers use := by
  have passive : ∀ t message, Passive config t message → Ordinary config t message :=
    fun _ _ known => known.1
  obtain ⟨beforeRaw, beforeAttenuation, beforeFiltered⟩ := before
  have notWritten : config.attenuationProjectionsWriter = false :=
    accepted.noAttenuationWriter raw
  rw [raw] at beforeRaw
  rw [attenuation, notWritten] at beforeAttenuation
  have reads := leads_readAttenuation sides threads attenuation beforeAttenuation
  obtain ⟨releases, heldFiltered⟩ := leads_releaseFiltered sides threads projections filtered
    (beforeFiltered.readUse filtered_ne_attenuation) (fun _ _ known => known) passive
  have heldAttenuation : KindHeld config k config.attenuationProjectionsReader
      config.attenuationProjectionsWriter .attenuation (readUse config k .attenuation use) := by
    rw [attenuation, notWritten]
    exact KindUse.readNext
  have heldRaw : KindHeld config k config.rawProjectionsReader false .raw
      (readUse config k .attenuation use) := by
    rw [raw]
    exact (beforeRaw.readUse (by simp)).hold
  have group : GroupHeld config k
      (filteredReleased config k (readUse config k .attenuation use)) :=
    ⟨heldRaw.filteredReleased (by simp), heldAttenuation.filteredReleased (by simp),
      heldFiltered⟩
  have skips : releaseAttenuation config (k * projectionsPerStep config) buffers = [] ∧
      processRaw config (k * projectionsPerStep config) buffers = [] := by
    simp [releaseAttenuation, notWritten, processRaw, raw]
  refine ⟨_, ?_, group⟩
  rw [prepareGroup, skips.1, skips.2, List.nil_append, List.nil_append]
  exact ((reads.append releases).weaken (fun _ _ known => known) passive).append
    (leads_filterProjections sides threads filtered group)

theorem groupPrepared_of_filtered (accepted : config.Accepted)
    (raw : config.rawProjectionsReader = false)
    (attenuation : config.attenuationProjectionsReader = false)
    (filtered : config.filteredProjectionsReader = true) (before : GroupUse config k use) :
    GroupPrepared config k buffers use := by
  have passive : ∀ t message, Passive config t message → Ordinary config t message :=
    fun _ _ known => known.1
  obtain ⟨beforeRaw, beforeAttenuation, beforeFiltered⟩ := before
  have notWritten : config.attenuationProjectionsWriter = false :=
    accepted.noAttenuationWriter raw
  have notWritten' : config.filteredProjectionsWriter = false := by
    simpa [filtered] using accepted.filteredOnce
  rw [raw] at beforeRaw
  rw [attenuation, notWritten] at beforeAttenuation
  rw [filtered, notWritten'] at beforeFiltered
  have reads := leads_readFiltered sides threads filtered beforeFiltered
  have group : GroupHeld config k (readUse config k .filtered use) := by
    refine ⟨?_, ?_, ?_⟩
    · rw [raw]
      exact (beforeRaw.readUse (by simp)).hold
    · rw [attenuation, notWritten]
      exact (beforeAttenuation.readUse (by simp)).hold
    · rw [filtered, notWritten']
      exact KindUse.readNext
  have skips : releaseAttenuation config (k * projectionsPerStep config) buffers = [] ∧
      processRaw config (k * projectionsPerStep config) buffers = [] ∧
      readAttenuation config (k * projectionsPerStep config) buffers = [] ∧
      releaseFiltered config (k * projectionsPerStep config) buffers = [] := by
    simp [releaseAttenuation, notWritten, processRaw, raw, readAttenuation, attenuation,
      releaseFiltered, notWritten']
  refine ⟨_, ?_, group⟩
  rw [prepareGroup, skips.1, skips.2.1, skips.2.2.1, skips.2.2.2]
  simpa using reads.weaken (fun _ _ known => known) passive

theorem leads_prepareGroup (accepted : config.Accepted)
    (projections : 0 < config.numberOfProjections) (before : GroupUse config k use) :
    GroupPrepared config k buffers use := by
  rcases accepted.readers with ⟨raw, attenuation, filtered⟩ | ⟨raw, attenuation, filtered⟩ |
    ⟨raw, attenuation, filtered⟩
  · exact groupPrepared_of_raw sides threads projections raw attenuation filtered before
  · exact groupPrepared_of_attenuation sides threads accepted projections raw attenuation filtered
      before
  · exact groupPrepared_of_filtered sides threads accepted raw attenuation filtered before

end Iteration

/-! ## Behind the barrier -/

section Finish

variable {config : Config} {use : Buffer → BufferUse} {k : ℕ} {buffers : Buffers}
  (sides : Sides config (k + 1) buffers)

/-- The use of the images behind the barrier, when those to be written are
requested. -/
def writtenUse (config : Config) (k : ℕ) (use : Buffer → BufferUse) : Buffer → BufferUse :=
  let attenuation :=
    if config.attenuationProjectionsWriter then
      mark (clear use) .attenuation (sideOf k)
        (projectionsThisStep config (k * projectionsPerStep config)) .writing
    else clear use
  if config.filteredProjectionsWriter then
    mark attenuation .filtered (sideOf k)
      (projectionsThisStep config (k * projectionsPerStep config)) .writing
  else attenuation

include sides

theorem leads_writeProjections (held : GroupHeld config k use) :
    Leads config Nothing (clear use)
      (writeProjections config (k * projectionsPerStep config) buffers)
      Nothing (writtenUse config k use) := by
  have corrections : Leads config Nothing (clear use)
      (if config.attenuationCorrectionsFile then
        (List.range (projectionsThisStep config (k * projectionsPerStep config))).map fun pp =>
          .writeCorrection (k * projectionsPerStep config + pp)
      else []) Nothing (clear use) := by
    split_ifs
    · refine leads_quiet fun action member ledger synchronized _ => ?_
      obtain ⟨pp, -, rfl⟩ := List.mem_map.mp member
      exact ⟨synchronized, rfl⟩
    · exact Leads.nil
  refine (corrections.append (Leads.ite (fun writes => ?_) fun _ => Leads.nil)).append
    (Leads.ite (fun writes => ?_) fun _ => Leads.nil)
  · have free := held.attenuation.available.clear
    rw [writes, Bool.true_or] at free
    refine leads_requestEach (fun pp below => ?_) (fun _ _ => rfl) free fun _ _ never => never.elim
    rw [sides.attenuationActive (below.trans_le (projectionsThisStep_le _))]
    simp [IORequest.image, activeSide, writes, BufferKind.buffer]
  · have free := held.filtered.available.clear
    rw [writes, Bool.true_or] at free
    refine leads_requestEach (fun pp below => ?_) (fun _ _ => rfl) ?_ fun _ _ never => never.elim
    · rw [sides.filteredActive (below.trans_le (projectionsThisStep_le _))]
      simp [IORequest.image, activeSide, writes, BufferKind.buffer]
    · split_ifs
      · exact free.mark (Or.inl (by simp))
      · exact free

/-- The filtered images of the group may be looked at by every thread. -/
theorem writtenUse_filtered (held : GroupHeld config k use) {pp : ℕ}
    (below : pp < projectionsThisStep config (k * projectionsPerStep config)) :
    writtenUse config k use (.filtered (buffers.filteredActive pp)) = .writing ∨
      writtenUse config k use (.filtered (buffers.filteredActive pp)) = .free := by
  rw [sides.filteredActive (below.trans_le (projectionsThisStep_le _))]
  have free := held.filtered.available.clear pp below
  by_cases writes : config.filteredProjectionsWriter = true
  · refine Or.inl ?_
    simp only [writtenUse, writes, if_true, Bool.true_or, activeSide]
    exact mark_of_lt below
  · have absent : config.filteredProjectionsWriter = false := by simpa using writes
    refine Or.inr ?_
    rw [absent] at free
    simp only [writtenUse, absent, Bool.false_eq_true, if_false]
    split_ifs
    · rw [← free]
      exact mark_of_ne (Or.inl filtered_ne_attenuation) pp
    · exact free

/-- The use of the images at the end of an iteration. -/
def finishedUse (config : Config) (k : ℕ) (use : Buffer → BufferUse) : Buffer → BufferUse :=
  if config.volumeWriter then clear (writtenUse config k use) else writtenUse config k use

theorem leads_backProject (held : GroupHeld config k use) :
    Leads config Nothing (writtenUse config k use)
      (backProject config (k * projectionsPerStep config) buffers)
      Nothing (finishedUse config k use) := by
  unfold backProject finishedUse
  refine Leads.ite (fun _ => ?_) fun _ => Leads.nil
  refine Leads.append ?_ (leads_synchronizeAndCheck _ (Or.inr fun _ _ known => known))
  refine Leads.weaken (leads_flatMap fun pp member => ?_) (fun _ _ never => never.elim)
    fun _ _ known => known
  split_ifs
  · exact Leads.nil
  · have looked := writtenUse_filtered sides held (List.mem_range.mp member)
    rcases looked with writing | free
    · exact leads_applyProjection _ (by simp [writing]) (by simp [writing])
    · exact leads_applyProjection _ (by simp [free]) (by simp [free])

end Finish

/-! ## The loop -/

section Loop

variable {config : Config} {use : Buffer → BufferUse} {k : ℕ}

theorem mark_comm {kind kind' : BufferKind} (other : kind ≠ kind') {side side' : Side}
    {count count' : ℕ} {new new' : BufferUse} :
    mark (mark use kind side count new) kind' side' count' new' =
      mark (mark use kind' side' count' new') kind side count new := by
  funext buffer
  by_cases same : buffer.kind = kind
  · have different : buffer.kind ≠ kind' := fun clash => other (same.symm.trans clash)
    simp [mark, different]
  · simp [mark, same]

/-- The images are in the use that the next iteration begins with. -/
theorem GroupHeld.finish (accepted : config.Accepted) (held : GroupHeld config k use)
    (more : (k + 1) * projectionsPerStep config < config.numberOfProjections) :
    GroupUse config (k + 1) (finishedUse config k use) := by
  have written : GroupUse config (k + 1) (writtenUse config k use) := by
    have readOnce := accepted.attenuationOnce
    have filteredOnce := accepted.filteredOnce
    refine ⟨?_, ?_, ?_⟩
    · have raw := held.raw.next_of_unwritten more
      unfold writtenUse
      split_ifs <;> first | exact raw | exact raw.mark (by simp) |
        exact (raw.mark (by simp)).mark (by simp)
    · have heldAttenuation := held.attenuation
      by_cases writes : config.attenuationProjectionsWriter = true
      · have notRead : config.attenuationProjectionsReader = false := by
          simpa [writes] using readOnce
        rw [writes, notRead] at heldAttenuation ⊢
        have after := heldAttenuation.next_of_written more
        simp only [writtenUse, writes, if_true]
        split_ifs
        · exact after.mark (by simp)
        · exact after
      · have absent : config.attenuationProjectionsWriter = false := by simpa using writes
        rw [absent] at heldAttenuation ⊢
        have after := heldAttenuation.next_of_unwritten more
        simp only [writtenUse, absent, Bool.false_eq_true, if_false]
        split_ifs
        · exact after.mark (by simp)
        · exact after
    · have heldFiltered := held.filtered
      by_cases writes : config.filteredProjectionsWriter = true
      · have notRead : config.filteredProjectionsReader = false := by
          simpa [writes] using filteredOnce
        rw [writes, notRead] at heldFiltered ⊢
        have after := heldFiltered.next_of_written more
        simp only [writtenUse, writes, if_true]
        split_ifs
        · rw [mark_comm (by simp)]
          exact after.mark (by simp)
        · exact after
      · have absent : config.filteredProjectionsWriter = false := by simpa using writes
        rw [absent] at heldFiltered ⊢
        have after := heldFiltered.next_of_unwritten more
        simp only [writtenUse, absent, Bool.false_eq_true, if_false]
        split_ifs
        · exact after.mark (by simp)
        · exact after
  unfold finishedUse
  split_ifs
  · exact ⟨written.raw.clear, written.attenuation.clear, written.filtered.clear⟩
  · exact written

/-- One iteration of the execution loop. -/
theorem leads_projectionGroup (accepted : config.Accepted)
    (threads : 0 < config.numberOfThreads) (projections : 0 < config.numberOfProjections)
    {buffers : Buffers} (sides : Sides config (k + 1) buffers) (before : GroupUse config k use) :
    ∃ use', Leads config (Passive config) use
        (projectionGroup config (k * projectionsPerStep config) buffers) Nothing use' ∧
      ((k + 1) * projectionsPerStep config < config.numberOfProjections →
        GroupUse config (k + 1) use') := by
  obtain ⟨middle, prepares, held⟩ :=
    leads_prepareGroup sides threads accepted projections before
  refine ⟨finishedUse config k middle, ?_, held.finish accepted⟩
  exact ((prepares.append (leads_synchronizeAndCheck _ (Or.inl fun _ _ known => known))).append
    (leads_writeProjections sides held)).append (leads_backProject sides held)

/-- The execution loop, from any iteration on. -/
theorem leads_executionLoop (accepted : config.Accepted) (threads : 0 < config.numberOfThreads)
    (projections : 0 < config.numberOfProjections) {bound : ℕ} {buffers : Buffers}
    (sides : Sides config k buffers) (before : GroupUse config k use)
    (more : k * projectionsPerStep config < config.numberOfProjections)
    (enough : config.numberOfProjections ≤ k * projectionsPerStep config + bound) :
    ∃ use', Leads config (Passive config) use
      (executionLoop config bound (k * projectionsPerStep config) buffers) Nothing use' := by
  induction bound generalizing k buffers use with
  | zero => omega
  | succ bound ih =>
      have positive := projectionsPerStep_pos threads projections
      obtain ⟨middle, iteration, next⟩ :=
        leads_projectionGroup accepted threads projections sides.swap before
      simp only [executionLoop, more, if_true]
      rw [← Nat.succ_mul]
      by_cases last : (k + 1) * projectionsPerStep config < config.numberOfProjections
      · obtain ⟨use', rest⟩ := ih sides.swap (next last) last (by rw [Nat.succ_mul]; omega)
        exact ⟨use', iteration.append (rest.weaken (fun _ _ never => never.elim)
          fun _ _ known => known)⟩
      · have ended : executionLoop config bound ((k + 1) * projectionsPerStep config)
            (swapBuffers config buffers) = [] := by
          cases bound with
          | zero => rfl
          | succ bound => simp [executionLoop, last]
        rw [ended, List.append_nil]
        exact ⟨middle, iteration⟩

end Loop

/-! ## In front of the loop -/

section Start

variable {config : Config} {use : Buffer → BufferUse}

/-- The threads create the objects they own. -/
theorem leads_createObjects (accepted : config.Accepted) :
    Leads config (Passive config) use
      (createThreadWorkers config ++ (createProjectionFilterers config ++
        createBackProjectors config))
      (Passive config) use := by
  have creates : ∀ message : ℕ → Message, (∀ t, Passive config t (message t)) →
      (∀ t buffer, message t ≠ .waitForBufferRelease buffer) →
      Leads config (Passive config) use (sendEach config.numberOfThreads message)
        (Passive config) use :=
    fun message passive noWait =>
      leads_sendPassive le_rfl (fun t _ => passive t) fun t _ => noWait t
  have workers : Leads config (Passive config) use (createThreadWorkers config)
      (Passive config) use :=
    creates _ (fun t => ⟨⟨fun _ => (absurd · List.not_mem_nil), rfl⟩, rfl⟩) (by simp)
  have filterers : Leads config (Passive config) use (createProjectionFilterers config)
      (Passive config) use := by
    unfold createProjectionFilterers
    split_ifs with filters supported
    · exact creates _ (fun t => ⟨⟨fun _ => (absurd · List.not_mem_nil), rfl⟩, rfl⟩) (by simp)
    · have calculated : config.filteredProjectionsReader = false := by
        simp only [RunnerConfig.filters, Bool.and_eq_true, Bool.not_eq_true'] at filters
        exact filters.1
      exact absurd (accepted.moduleCompiled calculated) supported
    · exact Leads.nil
  have backProjectors : Leads config (Passive config) use (createBackProjectors config)
      (Passive config) use := by
    unfold createBackProjectors
    split_ifs
    · refine Leads.append (creates _ (fun t => ⟨⟨?_, rfl⟩, rfl⟩) (by simp))
        (creates _ (fun t => ⟨⟨?_, rfl⟩, rfl⟩) (by simp))
      · exact fun _ => (absurd · List.not_mem_nil)
      · exact fun _ => (absurd · List.not_mem_nil)
    · exact Leads.nil
  exact workers.append (filterers.append backProjectors)

/-- The use of the images of a kind once the first group is requested. -/
def requestedUse (config : Config) (reads : Bool) (kind : BufferKind)
    (use : Buffer → BufferUse) : Buffer → BufferUse :=
  if reads then mark use kind (sideOf 0) (projectionsPerStep config) .reading else use

theorem kindUse_requested {reads writes : Bool} {kind : BufferKind}
    (once : (reads && writes) = false)
    (free : ∀ side, Free use kind side (projectionsPerStep config)) :
    KindUse config 0 reads writes kind (requestedUse config reads kind use) := by
  unfold requestedUse
  cases reads with
  | true =>
      obtain rfl : writes = false := by simpa using once
      exact ⟨fun _ => used_mark_reading.le (projectionsThisStep_le _),
        fun _ => (free _).mark (Or.inr (sideOf_succ_ne 0)), nofun, nofun, nofun, nofun, nofun⟩
  | false =>
      exact ⟨nofun, nofun, fun _ later => by omega, fun _ _ => free _, fun _ later => by omega,
        fun _ _ => free _, fun _ _ => free _⟩

/-- The use of the images in front of the first iteration. -/
def startUse (config : Config) : Buffer → BufferUse :=
  requestedUse config config.filteredProjectionsReader .filtered
    (requestedUse config config.attenuationProjectionsReader .attenuation
      (requestedUse config config.rawProjectionsReader .raw fun _ => .free))

theorem Ledger.KindUse.requestedUse {k : ℕ} {reads writes : Bool} {kind : BufferKind}
    (before : KindUse config k reads writes kind use) {kind' : BufferKind}
    (other : kind ≠ kind') (present : Bool) :
    KindUse config k reads writes kind (requestedUse config present kind' use) := by
  unfold MultiThreaded.requestedUse
  split_ifs
  · exact before.mark other
  · exact before

theorem free_requestedUse {kind kind' : BufferKind} (other : kind ≠ kind') {side : Side}
    {count : ℕ} (free : Free use kind side count) (present : Bool) :
    Free (requestedUse config present kind' use) kind side count := by
  unfold requestedUse
  split_ifs
  · exact free.mark (Or.inl other)
  · exact free

theorem groupUse_start (accepted : config.Accepted) : GroupUse config 0 (startUse config) := by
  have nothing : ∀ kind side, Free (fun _ => .free) kind side (projectionsPerStep config) :=
    fun _ _ _ _ => rfl
  refine ⟨?_, ?_, ?_⟩
  · refine KindUse.requestedUse (KindUse.requestedUse ?_ attenuation_ne_raw.symm _)
      filtered_ne_raw.symm _
    exact kindUse_requested (Bool.and_false _) (nothing .raw)
  · refine KindUse.requestedUse ?_ filtered_ne_attenuation.symm _
    exact kindUse_requested accepted.attenuationOnce fun side =>
      free_requestedUse attenuation_ne_raw (nothing .attenuation side) _
  · exact kindUse_requested accepted.filteredOnce fun side =>
      free_requestedUse filtered_ne_attenuation
        (free_requestedUse filtered_ne_raw (nothing .filtered side) _) _

/-- The first group of projections is requested. -/
theorem leads_initialRequests :
    Leads config (Passive config) (fun _ => .free) (initialRequests config .initial)
      (Passive config) (startUse config) := by
  have requests : ∀ (present : Bool) (kind : BufferKind) (request : ℕ → IORequest)
      (use : Buffer → BufferUse), (∀ pp, (request pp).image = kind.buffer ⟨pp, .a⟩) →
      (∀ pp, (request pp).isRead = true) →
      Free use kind .a (projectionsPerStep config) →
      Leads config (Passive config) use
        (if present then requestEach (projectionsPerStep config) request else [])
        (Passive config) (requestedUse config present kind use) := by
    intro present kind request use images isRead free
    refine Leads.ite (fun _ => ?_) fun _ => Leads.nil
    exact leads_requestEach (fun pp _ => images pp)
      (fun pp _ => show (request pp).use = .reading by simp [IORequest.use, isRead pp]) free
      fun _ _ known => known.2
  have nothing : ∀ kind side, Free (fun _ => .free) kind side (projectionsPerStep config) :=
    fun _ _ _ _ => rfl
  refine ((requests _ .raw _ _ (fun _ => rfl) (fun _ => rfl) (nothing _ _)).append
    (requests _ .attenuation _ _ (fun _ => rfl) (fun _ => rfl) ?_)).append
    (requests _ .filtered _ _ (fun _ => rfl) (fun _ => rfl) ?_)
  · exact free_requestedUse attenuation_ne_raw (nothing .attenuation _) _
  · exact free_requestedUse filtered_ne_attenuation
      (free_requestedUse filtered_ne_raw (nothing .filtered _) _) _

end Start

/-! ## Behind the loop, and the whole program -/

section Execute

/-- The threads write out their subvolumes one after the other. -/
theorem leads_writeVolume (config : Config) (use : Buffer → BufferUse) :
    ∃ use', Leads config Nothing use (writeVolume config) Nothing use' := by
  unfold writeVolume
  split_ifs
  · have each : ∀ threads : List ℕ, (∀ t ∈ threads, t < config.numberOfThreads) →
        ∃ use', Leads config Nothing use (threads.flatMap fun t =>
          .setMessage t .writeVolumeData :: synchronizeOneAndWait t) Nothing use' := by
      intro threads below
      induction threads generalizing use with
      | nil => exact ⟨use, Leads.nil⟩
      | cons t rest ih =>
          obtain ⟨use', others⟩ := ih (clear use) fun t' member =>
            below t' (List.mem_cons_of_mem _ member)
          rw [List.flatMap_cons]
          exact ⟨use', (leads_writeVolumeData (below t List.mem_cons_self)).append others⟩
    exact each _ fun t member => List.mem_range.mp member
  · exact ⟨use, Leads.nil⟩

/-- **The statements of `Execute` conform**, and leave nothing pending. -/
theorem execute_conforms {config : Config} (accepted : config.Accepted)
    (threads : 0 < config.numberOfThreads)
    (projections : 0 < config.numberOfProjections) :
    Ledger.empty.Conforms config (execute config) ∧
      (Ledger.empty.advanceAll (execute config)).Synchronized := by
  have completes : ∀ use, Leads config Nothing use [.waitForCompletion] Nothing use := by
    refine fun use => leads_quiet fun action member ledger synchronized _ => ?_
    obtain rfl := List.mem_singleton.mp member
    exact ⟨synchronized, rfl⟩
  have fits : ∀ use, Leads config Nothing use (fitCorrections config) Nothing use := by
    refine fun use => leads_quiet fun action member ledger synchronized _ => ?_
    unfold fitCorrections at member
    split_ifs at member
    · obtain rfl := List.mem_singleton.mp member
      exact ⟨synchronized, rfl⟩
    · exact absurd member List.not_mem_nil
  obtain ⟨use, loop⟩ := leads_executionLoop accepted threads projections
    (sides_initial config) (groupUse_start accepted) (by simpa using projections)
    (show config.numberOfProjections ≤ _ + config.numberOfProjections by simp)
  rw [Nat.zero_mul] at loop
  obtain ⟨use', volume⟩ := leads_writeVolume config use
  have whole := ((((((leads_createObjects accepted).append leads_initialRequests).append
    loop).append (completes use)).append volume).append (fits use')).append
    (leads_synchronizeAllAndWait (Or.inl fun _ _ never => never.elim))
  have same : execute config = createThreadWorkers config ++ (createProjectionFilterers config ++
      createBackProjectors config) ++ initialRequests config .initial ++
      executionLoop config config.numberOfProjections 0 .initial ++ [.waitForCompletion] ++
      writeVolume config ++ fitCorrections config ++
      synchronizeAllAndWait config.numberOfThreads := by
    simp only [execute, executeOnThreads, List.append_assoc]
  rw [same]
  obtain ⟨conforms, all, -⟩ := whole Ledger.empty
    (fun _ _ member => absurd member List.not_mem_nil) rfl
  exact ⟨conforms, all.synchronized⟩

end Execute

end AthabascaRecon.MultiThreaded
