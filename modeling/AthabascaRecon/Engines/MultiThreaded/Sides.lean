import AthabascaRecon.Engines.MultiThreaded.LedgerRules

/-!
# Which side of a double buffer is in use

An iteration of the execution loop takes one group of projections. With the
iterations numbered from zero, the double buffers that are swapped have side `a`
active in the even ones and side `b` in the odd ones (`sideOf`). Buffers that are
never swapped have side `b` active.

A kind of images that is read has the images of this group requested before the
iteration begins. A kind that is written has the images of the last two groups
requested (`KindUse`). Within the iteration the images of this group are held for
the worker threads (`KindHeld`).
-/

set_option autoImplicit false

namespace AthabascaRecon.MultiThreaded

/-- The side that is active in an iteration. -/
def sideOf (k : ℕ) : Side := if k % 2 = 0 then .a else .b

@[simp] theorem sideOf_add_two (k : ℕ) : sideOf (k + 2) = sideOf k := by
  simp [sideOf]

theorem sideOf_succ_ne (k : ℕ) : sideOf (k + 1) ≠ sideOf k := by
  rcases Nat.mod_two_eq_zero_or_one k with even | odd
  · have after : (k + 1) % 2 = 1 := by omega
    simp [sideOf, even, after]
  · have after : (k + 1) % 2 = 0 := by omega
    simp [sideOf, odd, after]

/-- The active side of a kind that is swapped, or of one that is not. -/
def activeSide (swapped : Bool) (k : ℕ) : Side := if swapped then sideOf k else .b

/-! ## The size of a group -/

section Sizes

variable {config : Config}

theorem projectionsPerStep_le (threads : 0 < config.numberOfThreads) :
    projectionsPerStep config ≤ config.numberOfThreads := by
  unfold projectionsPerStep
  split_ifs <;> omega

theorem projectionsPerStep_pos (threads : 0 < config.numberOfThreads)
    (projections : 0 < config.numberOfProjections) : 0 < projectionsPerStep config := by
  unfold projectionsPerStep
  split_ifs <;> omega

theorem projectionsThisStep_le (p : ℕ) :
    projectionsThisStep config p ≤ projectionsPerStep config :=
  min_le_left ..

/-- Only the last group can be smaller. -/
theorem projectionsThisStep_eq {p : ℕ}
    (more : p + projectionsPerStep config < config.numberOfProjections) :
    projectionsThisStep config p = projectionsPerStep config := by
  unfold projectionsThisStep
  omega

theorem projectionsNextStep_eq (p : ℕ) :
    projectionsNextStep config p = projectionsThisStep config (p + projectionsPerStep config) := by
  unfold projectionsNextStep projectionsThisStep
  rw [Nat.sub_sub]

theorem projectionsNextStep_le (p : ℕ) :
    projectionsNextStep config p ≤ projectionsPerStep config :=
  min_le_left ..

/-- The third iteration is the first that comes after more than one group. -/
theorem two_le_iff (positive : 0 < projectionsPerStep config) (k : ℕ) :
    projectionsPerStep config < k * projectionsPerStep config ↔ 2 ≤ k := by
  constructor
  · intro later
    by_contra early
    have atMost : k * projectionsPerStep config ≤ 1 * projectionsPerStep config :=
      Nat.mul_le_mul_right _ (by omega)
    omega
  · intro later
    have atLeast : 2 * projectionsPerStep config ≤ k * projectionsPerStep config :=
      Nat.mul_le_mul_right _ later
    omega

end Sizes

/-! ## The double buffers in front of an iteration -/

/-- The double buffers before they are swapped by iteration `k`. -/
structure Sides (config : Config) (k : ℕ) (buffers : Buffers) : Prop where
  raw : config.rawProjectionsReader = true → ∀ pp < projectionsPerStep config,
    buffers.raw pp = ⟨sideOf k, sideOf (k + 1)⟩
  attenuation :
    (config.attenuationProjectionsWriter || config.attenuationProjectionsReader) = true →
    ∀ pp < projectionsPerStep config, buffers.attenuation pp = ⟨sideOf k, sideOf (k + 1)⟩
  attenuationStill :
    (config.attenuationProjectionsWriter || config.attenuationProjectionsReader) = false →
      ∀ pp, (buffers.attenuation pp).active = .b
  filtered : (config.filteredProjectionsWriter || config.filteredProjectionsReader) = true →
    ∀ pp < projectionsPerStep config, buffers.filtered pp = ⟨sideOf k, sideOf (k + 1)⟩
  filteredStill : (config.filteredProjectionsWriter || config.filteredProjectionsReader) = false →
    ∀ pp, (buffers.filtered pp).active = .b

theorem sides_initial (config : Config) : Sides config 0 .initial where
  raw _ _ _ := rfl
  attenuation _ _ _ := rfl
  attenuationStill _ _ := rfl
  filtered _ _ _ := rfl
  filteredStill _ _ := rfl

theorem swapEach_eq {count k : ℕ} {group : ℕ → DoubleBuffer}
    (before : ∀ pp < count, group pp = ⟨sideOf k, sideOf (k + 1)⟩) {pp : ℕ} (below : pp < count) :
    swapEach count group pp = ⟨sideOf (k + 1), sideOf (k + 2)⟩ := by
  simp [swapEach, below, before pp below, DoubleBuffer.swap]

/-- Every iteration swaps the sides. -/
theorem Sides.swap {config : Config} {k : ℕ} {buffers : Buffers} (sides : Sides config k buffers) :
    Sides config (k + 1) (swapBuffers config buffers) where
  raw swapped pp below := by
    simpa [swapBuffers, swapped] using swapEach_eq (sides.raw swapped) below
  attenuation swapped pp below := by
    simpa [swapBuffers, swapped] using swapEach_eq (sides.attenuation swapped) below
  attenuationStill still pp := by
    simpa [swapBuffers, still] using sides.attenuationStill still pp
  filtered swapped pp below := by
    simpa [swapBuffers, swapped] using swapEach_eq (sides.filtered swapped) below
  filteredStill still pp := by
    simpa [swapBuffers, still] using sides.filteredStill still pp

section Slots

variable {config : Config} {k : ℕ} {buffers : Buffers} (sides : Sides config (k + 1) buffers)
  {pp : ℕ} (below : pp < projectionsPerStep config)

include sides below

theorem Sides.rawActive (swapped : config.rawProjectionsReader = true) :
    buffers.rawActive pp = ⟨pp, sideOf k⟩ := by
  simp [Buffers.rawActive, sides.raw swapped pp below]

theorem Sides.rawLoading (swapped : config.rawProjectionsReader = true) :
    buffers.rawLoading pp = ⟨pp, sideOf (k + 1)⟩ := by
  simp [Buffers.rawLoading, sides.raw swapped pp below]

theorem Sides.attenuationActive : buffers.attenuationActive pp =
    ⟨pp, activeSide (config.attenuationProjectionsWriter ||
      config.attenuationProjectionsReader) k⟩ := by
  cases swapped : config.attenuationProjectionsWriter || config.attenuationProjectionsReader
  · simp [Buffers.attenuationActive, sides.attenuationStill swapped, activeSide]
  · simp [Buffers.attenuationActive, sides.attenuation swapped pp below, activeSide]

theorem Sides.attenuationLoading (swapped : config.attenuationProjectionsReader = true) :
    buffers.attenuationLoading pp = ⟨pp, sideOf (k + 1)⟩ := by
  simp [Buffers.attenuationLoading, sides.attenuation (by simp [swapped]) pp below]

theorem Sides.filteredActive : buffers.filteredActive pp =
    ⟨pp, activeSide (config.filteredProjectionsWriter || config.filteredProjectionsReader) k⟩ := by
  cases swapped : config.filteredProjectionsWriter || config.filteredProjectionsReader
  · simp [Buffers.filteredActive, sides.filteredStill swapped, activeSide]
  · simp [Buffers.filteredActive, sides.filtered swapped pp below, activeSide]

theorem Sides.filteredLoading (swapped : config.filteredProjectionsReader = true) :
    buffers.filteredLoading pp = ⟨pp, sideOf (k + 1)⟩ := by
  simp [Buffers.filteredLoading, sides.filtered (by simp [swapped]) pp below]

end Slots

/-! ## The use of the images of one kind -/

namespace Ledger

/-- The images on one side of the first lanes are free. -/
def Free (use : Buffer → BufferUse) (kind : BufferKind) (side : Side) (count : ℕ) : Prop :=
  ∀ pp < count, use (kind.buffer ⟨pp, side⟩) = .free

/-- They are free, or will be once the message that waits for them is executed. -/
def Available (use : Buffer → BufferUse) (kind : BufferKind) (side : Side) (count : ℕ) : Prop :=
  ∀ pp < count, use (kind.buffer ⟨pp, side⟩) = .free ∨ use (kind.buffer ⟨pp, side⟩) = .awaited

/-- They are being read or written. -/
def Used (use : Buffer → BufferUse) (kind : BufferKind) (side : Side) (count : ℕ) : Prop :=
  ∀ pp < count, use (kind.buffer ⟨pp, side⟩) = .reading ∨ use (kind.buffer ⟨pp, side⟩) = .writing

section Uses

variable {use : Buffer → BufferUse} {kind : BufferKind} {side : Side} {count : ℕ}

theorem mark_of_ne {kind' : BufferKind} {side' : Side} {count' : ℕ} {new : BufferUse}
    (other : kind ≠ kind' ∨ side ≠ side') (pp : ℕ) :
    mark use kind' side' count' new (kind.buffer ⟨pp, side⟩) = use (kind.buffer ⟨pp, side⟩) := by
  rcases other with other | other <;> simp [mark, other]

theorem mark_of_lt {new : BufferUse} {pp : ℕ} (below : pp < count) :
    mark use kind side count new (kind.buffer ⟨pp, side⟩) = new := by
  simp [mark, below]

theorem Free.le {count' : ℕ} (free : Free use kind side count) (le : count' ≤ count) :
    Free use kind side count' :=
  fun pp below => free pp (below.trans_le le)

theorem Used.le {count' : ℕ} (used : Used use kind side count) (le : count' ≤ count) :
    Used use kind side count' :=
  fun pp below => used pp (below.trans_le le)

theorem Free.available (free : Free use kind side count) : Available use kind side count :=
  fun pp below => Or.inl (free pp below)

theorem Free.mark {kind' : BufferKind} {side' : Side} {count' : ℕ} {new : BufferUse}
    (free : Free use kind side count) (other : kind ≠ kind' ∨ side ≠ side') :
    Free (mark use kind' side' count' new) kind side count := by
  intro pp below
  rw [mark_of_ne other]
  exact free pp below

theorem Available.mark {kind' : BufferKind} {side' : Side} {count' : ℕ} {new : BufferUse}
    (available : Available use kind side count) (other : kind ≠ kind' ∨ side ≠ side') :
    Available (Ledger.mark use kind' side' count' new) kind side count := by
  intro pp below
  rw [mark_of_ne other]
  exact available pp below

theorem Used.mark {kind' : BufferKind} {side' : Side} {count' : ℕ} {new : BufferUse}
    (used : Used use kind side count) (other : kind ≠ kind' ∨ side ≠ side') :
    Used (Ledger.mark use kind' side' count' new) kind side count := by
  intro pp below
  rw [mark_of_ne other]
  exact used pp below

theorem available_mark : Available (mark use kind side count .awaited) kind side count :=
  fun _ below => Or.inr (mark_of_lt below)

theorem used_mark_reading : Used (mark use kind side count .reading) kind side count :=
  fun _ below => Or.inl (mark_of_lt below)

theorem used_mark_writing : Used (mark use kind side count .writing) kind side count :=
  fun _ below => Or.inr (mark_of_lt below)

theorem Available.clear (available : Available use kind side count) :
    Free (clear use) kind side count := by
  intro pp below
  rcases available pp below with free | awaited
  · simp [Ledger.clear, free]
  · simp [Ledger.clear, awaited]

theorem Free.clear (free : Free use kind side count) : Free (clear use) kind side count :=
  free.available.clear

theorem Used.clear (used : Used use kind side count) : Used (clear use) kind side count := by
  intro pp below
  rcases used pp below with reading | writing
  · exact Or.inl (by simp [Ledger.clear, reading])
  · exact Or.inr (by simp [Ledger.clear, writing])

end Uses

/-! ### Before and within an iteration -/

/-- The images of a kind in front of iteration `k`. -/
structure KindUse (config : Config) (k : ℕ) (reads writes : Bool) (kind : BufferKind)
    (use : Buffer → BufferUse) : Prop where
  read : reads = true →
    Used use kind (sideOf k) (projectionsThisStep config (k * projectionsPerStep config))
  unread : reads = true → Free use kind (sideOf (k + 1)) (projectionsPerStep config)
  written : writes = true → 2 ≤ k → Used use kind (sideOf k) (projectionsPerStep config)
  unwritten : writes = true → k < 2 → Free use kind (sideOf k) (projectionsPerStep config)
  writing : writes = true → 1 ≤ k → Used use kind (sideOf (k + 1)) (projectionsPerStep config)
  unused : writes = true → k = 0 → Free use kind (sideOf (k + 1)) (projectionsPerStep config)
  idle : reads = false → writes = false → Free use kind .b (projectionsPerStep config)

/-- The images of a kind within iteration `k`, when the worker threads may use the
active ones or have been told to wait for them. -/
structure KindHeld (config : Config) (k : ℕ) (reads writes : Bool) (kind : BufferKind)
    (use : Buffer → BufferUse) : Prop where
  available : Available use kind (activeSide (writes || reads) k)
    (projectionsThisStep config (k * projectionsPerStep config))
  next : reads = true → Used use kind (sideOf (k + 1))
    (projectionsNextStep config (k * projectionsPerStep config))
  writing : writes = true → 1 ≤ k → Used use kind (sideOf (k + 1)) (projectionsPerStep config)
  unused : writes = true → k = 0 → Free use kind (sideOf (k + 1)) (projectionsPerStep config)
  idle : reads = false → writes = false → Free use kind .b (projectionsPerStep config)

section Kinds

variable {config : Config} {k : ℕ} {reads writes : Bool} {kind : BufferKind}
  {use : Buffer → BufferUse}

/-- What happens to another kind does not matter. -/
theorem KindUse.mark (before : KindUse config k reads writes kind use) {kind' : BufferKind}
    (other : kind ≠ kind') {side : Side} {count : ℕ} {new : BufferUse} :
    KindUse config k reads writes kind (Ledger.mark use kind' side count new) where
  read present := (before.read present).mark (Or.inl other)
  unread present := (before.unread present).mark (Or.inl other)
  written present later := (before.written present later).mark (Or.inl other)
  unwritten present early := (before.unwritten present early).mark (Or.inl other)
  writing present later := (before.writing present later).mark (Or.inl other)
  unused present first := (before.unused present first).mark (Or.inl other)
  idle absent absent' := (before.idle absent absent').mark (Or.inl other)

theorem KindUse.clear (before : KindUse config k reads writes kind use) :
    KindUse config k reads writes kind (Ledger.clear use) where
  read present := (before.read present).clear
  unread present := (before.unread present).clear
  written present later := (before.written present later).clear
  unwritten present early := (before.unwritten present early).clear
  writing present later := (before.writing present later).clear
  unused present first := (before.unused present first).clear
  idle absent absent' := (before.idle absent absent').clear

theorem KindHeld.mark (held : KindHeld config k reads writes kind use) {kind' : BufferKind}
    (other : kind ≠ kind') {side : Side} {count : ℕ} {new : BufferUse} :
    KindHeld config k reads writes kind (Ledger.mark use kind' side count new) where
  available := held.available.mark (Or.inl other)
  next present := (held.next present).mark (Or.inl other)
  writing present later := (held.writing present later).mark (Or.inl other)
  unused present first := (held.unused present first).mark (Or.inl other)
  idle absent absent' := (held.idle absent absent').mark (Or.inl other)

theorem KindHeld.clear (held : KindHeld config k reads writes kind use) :
    KindHeld config k reads writes kind (Ledger.clear use) where
  available := held.available.clear.available
  next present := (held.next present).clear
  writing present later := (held.writing present later).clear
  unused present first := (held.unused present first).clear
  idle absent absent' := (held.idle absent absent').clear

/-- The use of the active images once the threads are told to wait for them. -/
def releasedUse (config : Config) (k : ℕ) (kind : BufferKind) (use : Buffer → BufferUse) :
    Buffer → BufferUse :=
  if 2 ≤ k then
    Ledger.mark use kind (sideOf k)
      (projectionsThisStep config (k * projectionsPerStep config)) .awaited
  else use

/-- An image that is written out is waited for from the third iteration on. -/
theorem KindUse.release (before : KindUse config k false true kind use) :
    KindHeld config k false true kind (releasedUse config k kind use) := by
  have other : kind ≠ kind ∨ sideOf (k + 1) ≠ sideOf k := Or.inr (sideOf_succ_ne k)
  unfold releasedUse
  split_ifs with later
  · exact ⟨available_mark, nofun,
      fun present once => (before.writing present once).mark other,
      fun present first => (before.unused present first).mark other, fun _ => nofun⟩
  · exact ⟨((before.unwritten rfl (by omega)).le (projectionsThisStep_le _)).available,
      nofun, before.writing, before.unused,
      fun _ => nofun⟩

/-- A kind that is neither read nor written is always free. -/
theorem KindUse.hold (before : KindUse config k false false kind use) :
    KindHeld config k false false kind use :=
  ⟨((before.idle rfl rfl).le (projectionsThisStep_le _)).available, nofun,
    nofun, nofun, before.idle⟩

/-- The use of the images of a kind that is read, once the next group is requested
and the threads are told to wait for this one. -/
def readUse (config : Config) (k : ℕ) (kind : BufferKind) (use : Buffer → BufferUse) :
    Buffer → BufferUse :=
  Ledger.mark
    (Ledger.mark use kind (sideOf (k + 1))
      (projectionsNextStep config (k * projectionsPerStep config)) .reading)
    kind (sideOf k) (projectionsThisStep config (k * projectionsPerStep config)) .awaited

theorem KindUse.readNext :
    KindHeld config k true false kind (readUse config k kind use) where
  available := available_mark
  next _ := used_mark_reading.mark (Or.inr (sideOf_succ_ne k))
  writing absent := by cases absent
  unused absent := by cases absent
  idle absent := by cases absent

/-- Behind the barrier the images of a kind that is not written are ready for the
next iteration. -/
theorem KindHeld.next_of_unwritten (held : KindHeld config k reads false kind use)
    (more : (k + 1) * projectionsPerStep config < config.numberOfProjections) :
    KindUse config (k + 1) reads false kind (Ledger.clear use) where
  read present := by
    rw [Nat.succ_mul, ← projectionsNextStep_eq]
    exact (held.next present).clear
  unread present := by
    have full : projectionsThisStep config (k * projectionsPerStep config) =
        projectionsPerStep config := projectionsThisStep_eq (by rwa [Nat.succ_mul] at more)
    have free := held.available.clear
    rw [full, present] at free
    simpa [activeSide] using free
  written absent := by cases absent
  unwritten absent := by cases absent
  writing absent := by cases absent
  unused absent := by cases absent
  idle absent absent' := (held.idle absent absent').clear

/-- The images that are written out behind the barrier are in use in the next
iteration. -/
theorem KindHeld.next_of_written (held : KindHeld config k false true kind use)
    (more : (k + 1) * projectionsPerStep config < config.numberOfProjections) :
    KindUse config (k + 1) false true kind (Ledger.mark (Ledger.clear use) kind (sideOf k)
      (projectionsThisStep config (k * projectionsPerStep config)) .writing) where
  read absent := by cases absent
  unread absent := by cases absent
  written present later :=
    (held.writing present (by omega)).clear.mark (Or.inr (sideOf_succ_ne k))
  unwritten present early :=
    (held.unused present (by omega)).clear.mark (Or.inr (sideOf_succ_ne k))
  writing _ _ := by
    have full : projectionsThisStep config (k * projectionsPerStep config) =
        projectionsPerStep config := projectionsThisStep_eq (by rwa [Nat.succ_mul] at more)
    rw [full, sideOf_add_two]
    exact used_mark_writing
  unused _ never := by omega
  idle _ absent := by cases absent

end Kinds

end Ledger

end AthabascaRecon.MultiThreaded
