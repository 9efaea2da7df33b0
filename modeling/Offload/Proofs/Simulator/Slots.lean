import Mathlib.Data.Finset.Card
import Mathlib.Data.Fintype.Card
import Mathlib.Data.List.Induction
import Offload.Proofs.Simulator.Calls

/-!
Who owns a slot, after any history of installations and ends.

An installation that finds no free slot takes one from a live instance, which may die before or
after the one that replaced it. The invariant is that a slot's entry is about the instance that
was given the slot last, and is cleared only once that instance has died.
-/

namespace Offload.Simulator

namespace Fleet

variable {f f' : Fleet} {slot : Slot} {id : Nat}

/-- The slot was given to this instance, and to none after it. -/
def Latest (f : Fleet) (slot : Slot) (id : Nat) : Prop :=
  f.cells[id]?.map Cell.slot = some slot ∧
    ∀ j, id < j → f.cells[j]?.map Cell.slot ≠ some slot

/-- Entries are about the latest instance of their slot, and that instance has one while it
lives. -/
structure Tracked (f : Fleet) : Prop where
  latest : ∀ slot id, f.owners.get slot = some id → f.Latest slot id
  entered : ∀ slot id, f.Latest slot id → f.isLive id = true → f.owners.get slot = some id

lemma owner?_eq_some_iff :
    f.owner? slot = some id ↔ f.owners.get slot = some id ∧ f.isLive id = true :=
  Option.filter_eq_some_iff

lemma Tracked.owner?_eq_some_iff (h : f.Tracked) :
    f.owner? slot = some id ↔ f.Latest slot id ∧ f.isLive id = true := by
  rw [Fleet.owner?_eq_some_iff]
  constructor
  · rintro ⟨he, hl⟩
    exact ⟨h.latest slot id he, hl⟩
  · rintro ⟨he, hl⟩
    exact ⟨h.entered slot id he hl, hl⟩

lemma Tracked.slot_of_owner? (h : f.Tracked) (ho : f.owner? slot = some id) :
    f.cells[id]?.map Cell.slot = some slot :=
  (h.owner?_eq_some_iff.1 ho).1.1

lemma isLive_eq_true_iff : f.isLive id = true ↔ ∃ c, f.cells[id]? = some c ∧ c.live = true := by
  unfold isLive
  rcases f.cells[id]? with _ | c <;> simp

lemma lt_size_of_isLive (h : f.isLive id = true) : id < f.cells.size := by
  obtain ⟨c, hc, -⟩ := isLive_eq_true_iff.1 h
  exact (Array.getElem?_eq_some_iff.1 hc).1

/-! ### The slot that an installation takes -/

/-- The first slot from the counter on that yields nothing, and the one at the counter if every
slot yields something. -/
def Next (f : Fleet) (slot : Slot) : Prop :=
  (∃ n < slotCount, slot = slotAt (f.next + n) ∧ f.owner? slot = none ∧
    ∀ m < n, f.owner? (slotAt (f.next + m)) ≠ none) ∨
  ((∀ other, f.owner? other ≠ none) ∧ slot = slotAt f.next)

/-- Counting on from anywhere passes every slot. -/
lemma exists_slotAt_eq (n : Nat) (slot : Slot) : ∃ i < slotCount, slotAt (n + i) = slot := by
  have hs := slot.isLt
  have hm : n % slotCount < slotCount := Nat.mod_lt n (by decide)
  refine ⟨(slot.val + slotCount - n % slotCount) % slotCount, Nat.mod_lt _ (by decide), ?_⟩
  apply Fin.ext
  simp only [slotAt, slotCount] at *
  omega

lemma freeSlot?_eq_none_iff : f.freeSlot? = none ↔ ∀ slot, f.owner? slot ≠ none := by
  rw [freeSlot?, List.find?_eq_none]
  constructor
  · intro h slot hs
    obtain ⟨i, hi, heq⟩ := exists_slotAt_eq f.next slot
    have hmem : slot ∈ f.candidates := List.mem_map.2 ⟨i, List.mem_range.2 hi, heq⟩
    exact h slot hmem (by simp [isFree, hs])
  · intro h slot _ hs
    exact h slot (by simpa [isFree] using hs)

lemma next_nextSlot (f : Fleet) : f.Next f.nextSlot := by
  rcases hf : f.freeSlot? with _ | slot
  · exact .inr ⟨freeSlot?_eq_none_iff.1 hf, by simp [nextSlot, hf]⟩
  · rw [nextSlot, hf, Option.getD_some]
    obtain ⟨hfree, n, hn, hget, hbefore⟩ := List.find?_eq_some_iff_getElem.1 hf
    have hlt : n < slotCount := by simpa [candidates] using hn
    refine .inl ⟨n, hlt, by simpa [candidates] using hget.symm, by simpa [isFree] using hfree,
      fun m hm => ?_⟩
    simpa [candidates, isFree, Option.isSome_iff_ne_none] using hbefore m hm

/-! ### Installing -/

variable (options : Options)

lemma getElem?_cells_install (id : Nat) :
    (f.install options).cells[id]? =
      if id = f.cells.size then some ⟨.fresh options, f.nextSlot, true⟩ else f.cells[id]? := by
  rw [install, Array.getElem?_push]

lemma isLive_install (id : Nat) :
    (f.install options).isLive id = (decide (id = f.cells.size) || f.isLive id) := by
  rw [isLive, getElem?_cells_install]
  by_cases h : id = f.cells.size <;> simp [h, isLive]

lemma owners_install (slot : Slot) :
    (f.install options).owners.get slot =
      if slot = f.nextSlot then some f.cells.size else f.owners.get slot := by
  by_cases h : slot = f.nextSlot
  · rw [if_pos h, h]
    exact Vector.getElem_set_self ..
  · have hne : f.nextSlot.val ≠ slot.val := fun heq => h (Fin.ext heq.symm)
    rw [if_neg h]
    exact Vector.getElem_set_ne f.nextSlot.isLt slot.isLt hne

lemma latest_install_iff :
    (f.install options).Latest slot id ↔
      if slot = f.nextSlot then id = f.cells.size else f.Latest slot id := by
  have hslot : ∀ j, (f.install options).cells[j]?.map Cell.slot =
      if j = f.cells.size then some f.nextSlot else f.cells[j]?.map Cell.slot := by
    intro j
    rw [getElem?_cells_install]
    split <;> rfl
  have hnone : ∀ j, f.cells.size ≤ j → f.cells[j]?.map Cell.slot = none := by
    intro j hj
    simp [hj]
  unfold Latest
  simp only [hslot]
  by_cases h : slot = f.nextSlot
  · rw [if_pos h]
    subst h
    constructor
    · rintro ⟨hid, hlater⟩
      by_contra hne
      rw [if_neg hne] at hid
      have hlt : id < f.cells.size := by
        by_contra hge
        rw [hnone id (Nat.le_of_not_lt hge)] at hid
        simp at hid
      exact hlater f.cells.size hlt (by simp)
    · rintro rfl
      refine ⟨by simp, fun j hj => ?_⟩
      rw [if_neg (by omega), hnone j (Nat.le_of_lt hj)]
      simp
  · rw [if_neg h]
    have hnew : some f.nextSlot ≠ some slot := fun heq => h (Option.some.inj heq).symm
    constructor
    · rintro ⟨hid, hlater⟩
      have hne : id ≠ f.cells.size := by
        rintro rfl
        rw [if_pos rfl] at hid
        exact hnew hid
      rw [if_neg hne] at hid
      refine ⟨hid, fun j hj => ?_⟩
      by_cases hj' : j = f.cells.size
      · rw [hnone j (Nat.le_of_eq hj'.symm)]
        simp
      · simpa [hj'] using hlater j hj
    · rintro ⟨hid, hlater⟩
      have hne : id ≠ f.cells.size := by
        rintro rfl
        rw [hnone _ (Nat.le_refl _)] at hid
        simp at hid
      refine ⟨by rwa [if_neg hne], fun j hj => ?_⟩
      by_cases hj' : j = f.cells.size
      · rwa [if_pos hj']
      · rw [if_neg hj']
        exact hlater j hj

lemma Tracked.install (h : f.Tracked) : (f.install options).Tracked where
  latest slot id he := by
    rw [owners_install] at he
    rw [latest_install_iff]
    split at he
    · rename_i hs
      rw [if_pos hs]
      exact (Option.some.inj he).symm
    · rename_i hs
      rw [if_neg hs]
      exact h.latest slot id he
  entered slot id hl hlive := by
    rw [latest_install_iff] at hl
    rw [owners_install]
    split at hl
    · rename_i hs
      rw [if_pos hs, hl]
    · rename_i hs
      rw [if_neg hs]
      have hlt : id < f.cells.size := by
        by_contra hge
        have hnone : f.cells[id]? = none := Array.getElem?_eq_none (Nat.le_of_not_lt hge)
        simp [Latest, hnone] at hl
      rw [isLive_install] at hlive
      exact h.entered slot id hl (by simpa [Nat.ne_of_lt hlt] using hlive)

/-- An installation changes what its own slot yields, and what no other one does. -/
lemma Tracked.owner?_install (h : f.Tracked) (slot : Slot) :
    (f.install options).owner? slot =
      if slot = f.nextSlot then some f.cells.size else f.owner? slot := by
  by_cases hs : slot = f.nextSlot
  · rw [if_pos hs, hs, Fleet.owner?_install]
  · rw [if_neg hs]
    ext id
    have hnew : f.Latest slot id → id ≠ f.cells.size := by
      rintro hl rfl
      simp [Latest] at hl
    rw [(h.install options).owner?_eq_some_iff, h.owner?_eq_some_iff, latest_install_iff,
      if_neg hs, isLive_install]
    constructor
    · rintro ⟨hl, hlive⟩
      exact ⟨hl, by simpa [hnew hl] using hlive⟩
    · rintro ⟨hl, hlive⟩
      exact ⟨hl, by simp [hlive]⟩

/-! ### Ends -/

lemma cells_retire (f : Fleet) (id : Nat) :
    (f.retire id).cells = f.cells.modify id fun c => { c with live := false } := by
  unfold retire
  rcases hc : f.cells[id]? with _ | c
  · simp only
    refine Array.ext (by simp) fun j hj hj' => ?_
    have hne : id ≠ j := by
      rintro rfl
      simp [hj] at hc
    simp [Array.getElem_modify, hne]
  · rfl

lemma slot_retire (f : Fleet) (id j : Nat) :
    (f.retire id).cells[j]?.map Cell.slot = f.cells[j]?.map Cell.slot := by
  rw [cells_retire, Array.getElem?_modify]
  by_cases h : id = j
  · subst h
    simp [Option.map_map, Function.comp_def]
  · simp [h]

lemma isLive_retire (f : Fleet) (id j : Nat) :
    (f.retire id).isLive j = (f.isLive j && decide (j ≠ id)) := by
  unfold isLive
  rw [cells_retire, Array.getElem?_modify]
  by_cases h : id = j
  · subst h
    rcases f.cells[id]? with _ | c <;> simp
  · simp [h, Ne.symm h]

/-- An end clears at most the entry of the instance's slot, and only if no live one has it. -/
lemma owners_retire (f : Fleet) (id : Nat) (slot : Slot) :
    (f.retire id).owners.get slot = f.owners.get slot ∨
      (f.retire id).owners.get slot = (f.owners.get slot).filter (f.retire id).isLive := by
  have hlive : ∀ c, f.cells[id]? = some c → (f.retire id).isLive =
      ({ f with cells := f.cells.modify id fun c => { c with live := false } } : Fleet).isLive := by
    intro c hc
    simp only [retire, hc]
    rfl
  rcases hc : f.cells[id]? with _ | c
  · exact .inl (by simp [retire, hc])
  · rw [hlive c hc]
    by_cases hs : c.slot = slot
    · right
      subst hs
      simp only [retire, hc]
      exact Vector.getElem_set_self ..
    · left
      have hne : c.slot.val ≠ slot.val := fun heq => hs (Fin.ext heq)
      simp only [retire, hc]
      exact Vector.getElem_set_ne _ _ hne

lemma latest_retire_iff {j : Nat} : (f.retire id).Latest slot j ↔ f.Latest slot j := by
  unfold Latest
  simp only [slot_retire]

lemma Tracked.retire (h : f.Tracked) (id : Nat) : (f.retire id).Tracked where
  latest slot j he := by
    rw [latest_retire_iff]
    refine h.latest slot j ?_
    rcases f.owners_retire id slot with heq | heq
    · rwa [← heq]
    · rw [heq] at he
      exact (Option.filter_eq_some_iff.1 he).1
  entered slot j hl hlive := by
    rw [latest_retire_iff] at hl
    have hlive' : f.isLive j = true := by
      rw [isLive_retire, Bool.and_eq_true] at hlive
      exact hlive.1
    have he := h.entered slot j hl hlive'
    rcases f.owners_retire id slot with heq | heq
    · rwa [heq]
    · rw [heq, Option.filter_eq_some_iff]
      exact ⟨he, hlive⟩

/-- An end takes its own instance out of what slots yield, and no other. -/
lemma Tracked.owner?_retire (h : f.Tracked) (id : Nat) (slot : Slot) :
    (f.retire id).owner? slot = (f.owner? slot).filter (· ≠ id) := by
  ext j
  rw [(h.retire id).owner?_eq_some_iff, Option.filter_eq_some_iff, h.owner?_eq_some_iff,
    latest_retire_iff, isLive_retire, Bool.and_eq_true, and_assoc]

/-! ### Calls and settings -/

lemma Kept.latest_iff (h : Kept f f') : f'.Latest slot id ↔ f.Latest slot id := by
  unfold Latest
  simp only [h.slot]

/-- Calls and settings leave slots and lives alone. -/
lemma Kept.tracked (h : Kept f f') (ht : f.Tracked) : f'.Tracked where
  latest slot id he := h.latest_iff.2 (ht.latest slot id (h.owners ▸ he))
  entered slot id hl hlive :=
    h.owners ▸ ht.entered slot id (h.latest_iff.1 hl) (h.live id ▸ hlive)

/-! ### Kernels within bounds -/

/-- No instance has more kernels than it can hold. -/
def Bounded (f : Fleet) : Prop := ∀ id d, f.instance? id = some d → d.kernels.size ≤ capacity

lemma Kept.bounded (h : Kept f f') (hb : f.Bounded) : f'.Bounded := by
  intro id d' hd'
  rcases hd : f.instance? id with _ | d
  · have hge := instance?_eq_none_iff.1 hd
    rw [← h.size_eq] at hge
    rw [instance?_eq_none_iff.2 hge] at hd'
    simp at hd'
  · obtain ⟨e, he, -, hroom⟩ := h.kernels id d hd
    obtain rfl := Option.some.inj (hd'.symm.trans he)
    exact hroom (hb id d hd)

lemma instance?_install (options : Options) (id : Nat) :
    (f.install options).instance? id =
      if id = f.cells.size then some (.fresh options) else f.instance? id := by
  rw [instance?, getElem?_cells_install]
  split <;> rfl

lemma Bounded.install (h : f.Bounded) (options : Options) : (f.install options).Bounded := by
  intro id d hd
  rw [instance?_install] at hd
  split at hd
  · rw [← Option.some.inj hd]
    exact Nat.zero_le _
  · exact h id d hd

lemma instance?_retire (f : Fleet) (id j : Nat) : (f.retire id).instance? j = f.instance? j := by
  rw [instance?, cells_retire, Array.getElem?_modify, instance?]
  by_cases h : id = j <;> simp [h, Option.map_map, Function.comp_def]

lemma Bounded.retire (h : f.Bounded) (id : Nat) : (f.retire id).Bounded := by
  intro j d hd
  rw [instance?_retire] at hd
  exact h j d hd

/-! ### Later fleets -/

lemma Tracked.later_install (h : f.Tracked) (options : Options) : Later f (f.install options) where
  slot id slot hs := by
    have hne : id ≠ f.cells.size := by
      rintro rfl
      simp at hs
    rw [getElem?_cells_install, if_neg hne, hs]
  owner id slot hlt ho := by
    rw [h.owner?_install] at ho
    split at ho
    · have hid := Option.some.inj ho
      omega
    · exact ho
  names id d hd := by
    have hne : id ≠ f.cells.size := by
      rintro rfl
      simp [instance?] at hd
    exact ⟨d, by rw [instance?_install, if_neg hne, hd], List.prefix_refl _⟩

lemma Tracked.later_retire (h : f.Tracked) (id : Nat) : Later f (f.retire id) where
  slot j slot hs := by rw [slot_retire, hs]
  owner j slot _ ho := by
    rw [h.owner?_retire] at ho
    exact (Option.filter_eq_some_iff.1 ho).1
  names j d hd := ⟨d, by rw [instance?_retire, hd], List.prefix_refl _⟩

/-! ### No more instances than slots -/

/-- How many instances are alive. -/
def liveCount (f : Fleet) : Nat :=
  ((Finset.range f.cells.size).filter fun id => f.isLive id = true).card

/-- Every live instance is reached through its slot. -/
def Seated (f : Fleet) : Prop :=
  ∀ id slot, f.cells[id]?.map Cell.slot = some slot → f.isLive id = true →
    f.owner? slot = some id

lemma Seated.unique (h : f.Seated) {id' : Nat} (hs : f.cells[id]?.map Cell.slot = some slot)
    (hs' : f.cells[id']?.map Cell.slot = some slot) (hl : f.isLive id = true)
    (hl' : f.isLive id' = true) : id = id' :=
  Option.some.inj ((h id slot hs hl).symm.trans (h id' slot hs' hl'))

/-- With fewer live instances than slots, some slot yields nothing. -/
lemma Tracked.exists_free (h : f.Tracked) (hlt : f.liveCount < slotCount) :
    ∃ slot, f.owner? slot = none := by
  by_contra hall
  simp only [not_exists, ← ne_eq, Option.ne_none_iff_exists'] at hall
  choose owner howner using hall
  have hlatest : ∀ slot, f.Latest slot (owner slot) ∧ f.isLive (owner slot) = true :=
    fun slot => h.owner?_eq_some_iff.1 (howner slot)
  have hinj : Function.Injective owner := by
    intro slot slot' heq
    have hs := (hlatest slot).1.1
    rw [heq, (hlatest slot').1.1] at hs
    exact (Option.some.inj hs).symm
  have hcard : (Finset.univ : Finset Slot).card ≤ f.liveCount := by
    refine Finset.card_le_card_of_injOn owner (fun slot _ => ?_) hinj.injOn
    have hlive := (hlatest slot).2
    simp [lt_size_of_isLive hlive, hlive]
  rw [Finset.card_univ, Fintype.card_fin] at hcard
  omega

lemma liveCount_install (options : Options) :
    (f.install options).liveCount = f.liveCount + 1 := by
  have hsize : (f.install options).cells.size = f.cells.size + 1 := by simp [install]
  have hold : ∀ id ∈ Finset.range f.cells.size,
      (f.install options).isLive id = true ↔ f.isLive id = true := by
    intro id hid
    have hlt := Finset.mem_range.1 hid
    simp [isLive_install, Nat.ne_of_lt hlt]
  have hnew : (f.install options).isLive f.cells.size = true := by simp [isLive_install]
  rw [liveCount, liveCount, hsize, Finset.range_add_one, Finset.filter_insert, if_pos hnew,
    Finset.card_insert_of_notMem (by simp), Finset.filter_congr hold]

/-- With room for one more, an installation unseats nobody. -/
lemma Seated.install (h : f.Seated) (ht : f.Tracked) (options : Options)
    (hroom : (f.install options).liveCount ≤ slotCount) : (f.install options).Seated := by
  obtain ⟨free, hfree⟩ := ht.exists_free (by rw [liveCount_install] at hroom; omega)
  have hnext : f.owner? f.nextSlot = none := by
    rcases f.next_nextSlot with ⟨-, -, -, hn, -⟩ | ⟨hall, -⟩
    · exact hn
    · exact absurd hfree (hall free)
  intro id slot hs hl
  rw [getElem?_cells_install] at hs
  rw [isLive_install] at hl
  rw [ht.owner?_install]
  by_cases hid : id = f.cells.size
  · rw [if_pos hid] at hs
    rw [if_pos (Option.some.inj hs).symm, hid]
  · rw [if_neg hid] at hs
    have howner := h id slot hs (by simpa [hid] using hl)
    rw [if_neg (by rintro rfl; simp [hnext] at howner), howner]

lemma Seated.retire (h : f.Seated) (ht : f.Tracked) (id : Nat) : (f.retire id).Seated := by
  intro j slot hs hl
  rw [slot_retire] at hs
  rw [isLive_retire, Bool.and_eq_true] at hl
  rw [ht.owner?_retire, h j slot hs hl.1]
  simpa using hl.2

lemma Kept.seated (h : Kept f f') (hs : f.Seated) : f'.Seated := by
  intro id slot hslot hl
  rw [h.slot] at hslot
  rw [h.live] at hl
  rw [h.owner, hs id slot hslot hl]

/-! ### Histories -/

/-- An installation, or the end of an instance. -/
inductive Event
  | install (options : Options)
  | retire (id : Nat)

def step (f : Fleet) : Event → Fleet
  | .install options => f.install options
  | .retire id => f.retire id

def after (f : Fleet) (events : List Event) : Fleet := events.foldl step f

/-- All slots are free, and the counter may stand anywhere. -/
def vacant (n : Nat) : Fleet := { empty with next := n }

def Event.isInstall : Event → Bool
  | .install _ => true
  | .retire _ => false

/-- An instance was installed, as the one with this number, and has not ended since. -/
def Survives (events : List Event) (id : Nat) : Prop :=
  ∃ before options rest, events = before ++ .install options :: rest ∧
    before.countP Event.isInstall = id ∧ .retire id ∉ rest

lemma after_concat (f : Fleet) (events : List Event) (e : Event) :
    f.after (events ++ [e]) = (f.after events).step e := by
  simp [after, List.foldl_append]

lemma survives_concat_iff {events : List Event} {e : Event} :
    Survives (events ++ [e]) id ↔
      ((∃ options, e = .install options) ∧ events.countP Event.isInstall = id) ∨
        (Survives events id ∧ e ≠ .retire id) := by
  constructor
  · rintro ⟨before, options, rest, heq, hcount, hrest⟩
    rcases List.eq_nil_or_concat rest with rfl | ⟨rest, last, rfl⟩
    · obtain ⟨rfl, hlast⟩ := List.append_inj' heq rfl
      exact .inl ⟨⟨options, List.singleton_inj.1 hlast⟩, hcount⟩
    · rw [List.concat_eq_append, ← List.cons_append, ← List.append_assoc] at heq
      obtain ⟨rfl, hlast⟩ := List.append_inj' heq rfl
      obtain rfl := List.singleton_inj.1 hlast
      simp only [List.concat_eq_append, List.mem_append, not_or, List.mem_singleton] at hrest
      exact .inr ⟨⟨before, options, rest, rfl, hcount, hrest.1⟩, Ne.symm hrest.2⟩
  · rintro (⟨⟨options, rfl⟩, hcount⟩ | ⟨⟨before, options, rest, rfl, hcount, hrest⟩, hne⟩)
    · exact ⟨events, options, [], rfl, hcount, by simp⟩
    · refine ⟨before, options, rest ++ [e], by simp, hcount, ?_⟩
      simp only [List.mem_append, List.mem_singleton, not_or]
      exact ⟨hrest, Ne.symm hne⟩

lemma size_after (n : Nat) (events : List Event) :
    ((vacant n).after events).cells.size = events.countP Event.isInstall := by
  induction events using List.reverseRecOn with
  | nil => rfl
  | append_singleton events e ih =>
    rw [after_concat, List.countP_append, ← ih]
    cases e with
    | install options => simp [step, install, Event.isInstall]
    | retire id => simp [step, cells_retire, Event.isInstall]

lemma isLive_after_iff (n : Nat) (events : List Event) :
    ((vacant n).after events).isLive id = true ↔ Survives events id := by
  induction events using List.reverseRecOn with
  | nil =>
    constructor
    · intro h
      simp [after, vacant, empty, isLive] at h
    · rintro ⟨before, options, rest, heq, -⟩
      simp at heq
  | append_singleton events e ih =>
    rw [after_concat, survives_concat_iff, ← ih, ← size_after n]
    cases e with
    | install options => simp [step, isLive_install, @eq_comm Nat id]
    | retire j => simp [step, isLive_retire, @eq_comm Nat id]

lemma tracked_vacant (n : Nat) : (vacant n).Tracked where
  latest slot id he := by
    have hnone : (vacant n).owners.get slot = none := Vector.getElem_replicate ..
    rw [hnone] at he
    simp at he
  entered slot id hl _ := by
    have hnone : (vacant n).cells[id]? = none := Array.getElem?_empty
    simp [Latest, hnone] at hl

lemma tracked_after (n : Nat) (events : List Event) : ((vacant n).after events).Tracked := by
  induction events using List.reverseRecOn with
  | nil => exact tracked_vacant n
  | append_singleton events e ih =>
    rw [after_concat]
    cases e with
    | install options => exact ih.install options
    | retire id => exact ih.retire id

/-- At no point of a history are more instances alive than there are slots. -/
def Roomy (n : Nat) (events : List Event) : Prop :=
  ∀ k ≤ events.length, ((vacant n).after (events.take k)).liveCount ≤ slotCount

instance (n : Nat) (events : List Event) : Decidable (Roomy n events) :=
  inferInstanceAs (Decidable (∀ k ≤ events.length, _ ≤ slotCount))

lemma seated_after (n : Nat) (events : List Event) (h : Roomy n events) :
    ((vacant n).after events).Seated := by
  induction events using List.reverseRecOn with
  | nil =>
    intro id slot hs
    simp [after, vacant, empty] at hs
  | append_singleton events e ih =>
    have hseated := ih fun k hk => by
      have hle := h k (by simp; omega)
      rwa [List.take_append_of_le_length hk] at hle
    have hroom := h (events ++ [e]).length (Nat.le_refl _)
    rw [List.take_length, after_concat] at hroom
    rw [after_concat]
    cases e with
    | install options => exact hseated.install (tracked_after n events) options hroom
    | retire id => exact hseated.retire (tracked_after n events) id

/-- **Slot ownership**: after any history, also one with more live instances than slots, a slot
yields the instance that was given it last, if that is still alive. An end takes away its own
instance alone; an installation moves the counter by one, takes the first slot from the counter on
that yields nothing, or the one at the counter, and changes no other. So as long as there are no
more live instances than slots, each is reached through a slot of its own. -/
theorem slots_owned (n : Nat) (events : List Event) :
    let f := (vacant n).after events
    (∀ id, f.isLive id = true ↔ Survives events id) ∧
    (∀ slot id, f.owner? slot = some id ↔ f.Latest slot id ∧ f.isLive id = true) ∧
    (∀ id, (∀ j : Nat, (f.retire id).cells[j]?.map Cell.slot = f.cells[j]?.map Cell.slot) ∧
      ∀ slot, (f.retire id).owner? slot = (f.owner? slot).filter (· ≠ id)) ∧
    (∀ options, ∃ slot, f.Next slot ∧ (f.install options).next = f.next + 1 ∧
      (f.install options).cells = f.cells.push ⟨.fresh options, slot, true⟩ ∧
      ∀ other, (f.install options).owner? other =
        if other = slot then some f.cells.size else f.owner? other) ∧
    (Roomy n events →
      ∀ id slot, f.cells[id]?.map Cell.slot = some slot → f.isLive id = true →
        f.owner? slot = some id ∧
        ∀ id', f.cells[id']?.map Cell.slot = some slot → f.isLive id' = true → id' = id) := by
  intro f
  have ht : f.Tracked := tracked_after n events
  refine ⟨fun id => isLive_after_iff n events, fun slot id => ht.owner?_eq_some_iff,
    fun id => ⟨f.slot_retire id, ht.owner?_retire id⟩, fun options => ?_,
    fun hroom id slot hs hl => ?_⟩
  · exact ⟨f.nextSlot, f.next_nextSlot, rfl, rfl, ht.owner?_install options⟩
  · have hseated : f.Seated := seated_after n events hroom
    exact ⟨hseated id slot hs hl, fun id' hs' hl' => hseated.unique hs' hs hl' hl⟩

/-- One more instance than slots: the first one loses its slot, and its end does not harm the
one that took it over. Two instances, of which one ends, stay apart. -/
theorem slots_owned_taken :
    let events := List.replicate 33 (Event.install {}) ++ [.retire 0]
    let few : List Event := [.install {}, .install {}, .retire 0, .install {}]
    ((vacant 0).after events).owner? 0 = some 32 ∧
      Roomy 5 few ∧ ((vacant 5).after few).owner? 7 = some 2 := by
  intro events few
  obtain ⟨hlive, howner, -, -, -⟩ := slots_owned 0 events
  obtain ⟨hlive', -, -, -, hroomy⟩ := slots_owned 5 few
  have hroom : Roomy 5 few := by decide +kernel
  refine ⟨(howner 0 32).2 ⟨?_, ?_⟩, hroom, (hroomy hroom 2 7 ?_ ?_).1⟩
  · refine ⟨by decide +kernel, fun j hj => ?_⟩
    have hsize : ((vacant 0).after events).cells.size = 33 := by decide +kernel
    rw [Array.getElem?_eq_none (by omega)]
    simp
  · decide +kernel
  · decide +kernel
  · decide +kernel

end Fleet

end Offload.Simulator
