import Mathlib.Data.List.Basic
import Mathlib.Tactic.Common
import Offload.Linkage.Resolver

/-!
What linking asks and what it binds.

An attempt asks for every required entry point once, in table order, and for the optional one only
when none of them is missing. Every entry of the table is the address found under its own name.

Over a simulated device the entries are those of the device's slot, whatever its options were.
-/

namespace Offload

open Simulator (Slot Fleet EntryPoint)

variable {α : Type}

/-- The question for a symbol's address. -/
def Symbol.question (s : Symbol) : Query := .lookUp s.name

/-- The questions of an attempt up to the last required symbol. -/
def Query.required : List Query := .open_ :: Symbol.required.map Symbol.question

namespace Answers

variable {a : Answers α}

/-- The symbols among some that have no address, in their order. -/
def missing (a : Answers α) (symbols : List Symbol) : List Symbol :=
  symbols.filter fun s => (a.address? s).isNone

lemma lookUp_run (s : Symbol) (asked : List Query) :
    (a.lookUp s).run asked = (a.address? s, asked ++ [s.question]) := rfl

/-- Every symbol is asked for once, in order, whether those before it were found or not. -/
lemma lookUpAll_run (symbols : List Symbol) (asked : List Query) :
    (a.lookUpAll symbols).run asked =
      ((symbols.filterMap a.address?, (a.missing symbols).map Symbol.name),
        asked ++ symbols.map Symbol.question) := by
  induction symbols generalizing asked with
  | nil =>
    simp only [List.filterMap_nil, List.map_nil, List.append_nil]
    rfl
  | cons s rest ih =>
    rw [lookUpAll, StateT.run_bind, lookUp_run]
    simp only [StateT.run_bind, ih]
    rw [List.map_cons, List.append_cons asked s.question (rest.map Symbol.question)]
    rcases hs : a.address? s with _ | address
    · have hmissing : a.missing (s :: rest) = s :: a.missing rest := by simp [missing, hs]
      rw [List.filterMap_cons_none hs, hmissing]
      rfl
    · have hmissing : a.missing (s :: rest) = a.missing rest := by simp [missing, hs]
      rw [List.filterMap_cons_some hs, hmissing]
      rfl

lemma link_of_closed (h : a.opened = false) :
    a.link = (.error (.linkage (Symbol.required.map Symbol.name)), [.open_]) := by
  unfold link fill openLibrary
  simp only [Inquiry.ask, StateT.run_bind, StateT.run_pure, StateT.run_modify, pure_bind, h]
  rfl

lemma link_of_opened (h : a.opened = true) :
    a.link = (a.complete (Symbol.required.filterMap a.address?)
      ((a.missing Symbol.required).map Symbol.name)).run Query.required := by
  unfold link fill openLibrary
  simp only [Inquiry.ask, StateT.run_bind, StateT.run_pure, StateT.run_modify, pure_bind, h,
    if_true, lookUpAll_run]
  rfl

/-- A missing entry point ends the attempt without a table. -/
lemma link_of_missing (h : a.opened = true) (hm : a.missing Symbol.required ≠ []) :
    a.link =
      (.error (.linkage ((a.missing Symbol.required).map Symbol.name)), Query.required) := by
  rw [link_of_opened h]
  rcases hn : (a.missing Symbol.required).map Symbol.name with _ | ⟨name, names⟩
  · exact absurd (List.map_eq_nil_iff.1 hn) hm
  · unfold complete
    simp only [StateT.run_pure]
    rfl

lemma address?_of_not_missing {symbols : List Symbol} (h : a.missing symbols = []) {s : Symbol}
    (hs : s ∈ symbols) : ∃ address, a.address? s = some address := by
  have hall := List.filter_eq_nil_iff.1 h s hs
  simpa [← Option.ne_none_iff_exists'] using hall

/-- Without a missing one, every entry of the table is the address under its own name. -/
lemma link_of_found (h : a.opened = true) (hm : a.missing Symbol.required = []) :
    ∃ t : Table α, (∀ s, t.entry? s = a.address? s) ∧
      a.link = (.ok t, Query.required ++ [Symbol.totalCores.question]) := by
  have hfound : ∀ s ∈ Symbol.required, ∃ address, a.address? s = some address :=
    fun s hs => address?_of_not_missing hm hs
  obtain ⟨x1, h1⟩ := hfound .createContext (by decide)
  obtain ⟨x2, h2⟩ := hfound .createKernel (by decide)
  obtain ⟨x3, h3⟩ := hfound (.push .object) (by decide)
  obtain ⟨x4, h4⟩ := hfound (.push .boolean) (by decide)
  obtain ⟨x5, h5⟩ := hfound (.push .byte) (by decide)
  obtain ⟨x6, h6⟩ := hfound (.push .double) (by decide)
  obtain ⟨x7, h7⟩ := hfound (.push .float) (by decide)
  obtain ⟨x8, h8⟩ := hfound (.push .int) (by decide)
  obtain ⟨x9, h9⟩ := hfound (.push .long) (by decide)
  obtain ⟨x10, h10⟩ := hfound .execute (by decide)
  obtain ⟨x11, h11⟩ := hfound .clearArgs (by decide)
  obtain ⟨x12, h12⟩ := hfound .registerHeap (by decide)
  have hlist : Symbol.required.filterMap a.address? =
      [x1, x2, x3, x4, x5, x6, x7, x8, x9, x10, x11, x12] := by
    simp [Symbol.required, h1, h2, h3, h4, h5, h6, h7, h8, h9, h10, h11, h12]
  refine ⟨⟨x1, x2, x3, x4, x5, x6, x7, x8, x9, x10, x11, x12, a.address? .totalCores⟩,
    fun s => ?_, ?_⟩
  · cases s with
    | createContext => exact h1.symm
    | createKernel => exact h2.symm
    | push kind => cases kind <;> (symm; assumption)
    | execute => exact h10.symm
    | clearArgs => exact h11.symm
    | registerHeap => exact h12.symm
    | totalCores => rfl
  · rw [link_of_opened h, hm, hlist]
    rfl

/-- An attempt ends with a table of the library's own addresses, or with names that are missing. -/
lemma link_ends (a : Answers α) :
    (∃ t : Table α, (∀ s, t.entry? s = a.address? s) ∧ a.link.1 = .ok t) ∨
      ∃ names, a.link.1 = .error (.linkage names) := by
  rcases ho : a.opened
  · exact .inr ⟨_, by rw [link_of_closed ho]⟩
  by_cases hm : a.missing Symbol.required = []
  · obtain ⟨t, ht, hl⟩ := link_of_found ho hm
    exact .inl ⟨t, ht, by rw [hl]⟩
  · exact .inr ⟨_, by rw [link_of_missing ho hm]⟩

lemma entry?_of_link {t : Table α} (h : a.link.1 = .ok t) (s : Symbol) :
    t.entry? s = a.address? s := by
  obtain ⟨t', ht', hl⟩ | ⟨names, hl⟩ := a.link_ends
  · obtain rfl : t' = t := by simpa [hl] using h
    exact ht' s
  · simp [hl] at h

/-- What fails while linking is the linkage. -/
lemma isFatal_of_link {e : Fault} (h : a.link.1 = .error e) : e.isFatal = true := by
  obtain ⟨t, -, hl⟩ | ⟨names, hl⟩ := a.link_ends
  · simp [hl] at h
  · obtain rfl : Fault.linkage names = e := by simpa [hl] using h
    rfl

end Answers

/-- A table of the entry points that an instance in this slot exports. -/
def Table.Simulated (t : Table EntryPoint) (slot : Slot) : Prop :=
  ∀ s p, t.entry? s = some p → p = .ofSymbol slot s

lemma Simulator.Fleet.exported?_name {f : Fleet} {id : Nat} {s : Symbol} {p : EntryPoint}
    (h : f.exported? id s.name = some p) :
    ∃ c, f.cells[id]? = some c ∧ p = .ofSymbol c.slot s := by
  simp only [Fleet.exported?, bind, Option.bind_eq_some_iff, Symbol.ofName?_name,
    Option.some.injEq] at h
  obtain ⟨c, hc, _, rfl, h⟩ := h
  refine ⟨c, hc, ?_⟩
  split at h
  · simp at h
  split at h
  · simp at h
  · exact (Option.some.inj h).symm

/-- A resolver that answers with nothing but what an instance exports. -/
def Resolver.Over (r : Resolver) (id : Nat) : Prop :=
  ∀ f n s p, (r.attempt f n).answers.address? s = some p → f.exported? id s.name = some p

namespace Resolver

lemma address?_simulated (f : Fleet) (id n : Nat) (s : Symbol) :
    ((simulated id).attempt f n).answers.address? s = f.exported? id s.name := by
  simp only [simulated, Answers.address?]
  cases f.exported? id s.name <;> rfl

lemma over_simulated (id : Nat) : (simulated id).Over id := by
  intro f n s p hp
  rwa [address?_simulated] at hp

/-- A device that exports all that is required is linked, and each entry is what it exports. -/
lemma link_of_exported {f : Fleet} {id : Nat} (n : Nat)
    (h : ∀ s ∈ Symbol.required, f.exported? id s.name ≠ none) :
    ∃ t, ((simulated id).attempt f n).answers.link.1 = .ok t ∧
      ∀ s, t.entry? s = f.exported? id s.name := by
  have hm : ((simulated id).attempt f n).answers.missing Symbol.required = [] := by
    refine List.filter_eq_nil_iff.2 fun s hs => ?_
    rw [address?_simulated, Option.isNone_iff_eq_none]
    exact h s hs
  obtain ⟨t, hentry, hlink⟩ := Answers.link_of_found rfl hm
  exact ⟨t, by rw [hlink], fun s => (hentry s).trans (address?_simulated f id n s)⟩

/-- A device that lacks something required is not linked. -/
lemma link_of_not_exported {f : Fleet} {id : Nat} (n : Nat) {s : Symbol}
    (hs : s ∈ Symbol.required) (h : f.exported? id s.name = none) :
    ∃ e, ((simulated id).attempt f n).answers.link.1 = .error e := by
  have hm : ((simulated id).attempt f n).answers.missing Symbol.required ≠ [] := by
    refine List.ne_nil_of_mem (List.mem_filter.2 ⟨hs, ?_⟩)
    rw [address?_simulated, h]
    rfl
  exact ⟨_, by rw [Answers.link_of_missing rfl hm]⟩

lemma over_scripted (id : Nat) (opens : List Bool) (withoutAddress : List String) :
    (scripted id opens withoutAddress).Over id := by
  intro f n s p hp
  by_cases hm : s.name ∈ withoutAddress
  · simp [scripted, Answers.address?, hm] at hp
  · rcases he : f.exported? id s.name with _ | q
    · simp [scripted, Answers.address?, hm, he] at hp
    · simpa [scripted, Answers.address?, hm, he] using hp

/-- A library without entry points answers with nothing at all. -/
lemma over_library (path : String) (loads : Bool) (id : Nat) : (library path loads).Over id := by
  intro f n s p hp
  simp [library, Answers.address?] at hp

/-- Linking to a simulated device binds the entry points of its slot. -/
lemma Over.simulated_of_link {r : Resolver} {f : Fleet} {id n : Nat} {t : Table EntryPoint}
    (hr : r.Over id) (h : (r.attempt f n).answers.link.1 = .ok t) :
    ∃ slot, f.cells[id]?.map Simulator.Cell.slot = some slot ∧ t.Simulated slot := by
  have hentry := Answers.entry?_of_link h
  have hfound : ∀ s p, t.entry? s = some p → f.exported? id s.name = some p :=
    fun s p hp => hr f n s p (hentry s ▸ hp)
  obtain ⟨c, hc, -⟩ := Fleet.exported?_name (hfound .createContext _ rfl)
  refine ⟨c.slot, by rw [hc]; rfl, fun s p hp => ?_⟩
  obtain ⟨c', hc', rfl⟩ := Fleet.exported?_name (hfound s p hp)
  rw [hc] at hc'
  rw [Option.some.inj hc']

end Resolver

namespace Table.Simulated

variable {t : Table EntryPoint} {slot : Slot} (h : t.Simulated slot)

include h

lemma createContext : t.createContext = .createContext slot := h .createContext _ rfl

lemma registerHeap : t.registerHeap = .registerHeap slot := h .registerHeap _ rfl

lemma createKernel : t.createKernel = .createKernel := h .createKernel _ rfl

lemma push (kind : PushKind) : t.push kind = .push kind := h (.push kind) _ rfl

lemma execute : t.execute = .execute := h .execute _ rfl

lemma clearArgs : t.clearArgs = .clearArgs := h .clearArgs _ rfl

lemma totalCores {p : EntryPoint} (hp : t.totalCores = some p) : p = .totalCores :=
  h .totalCores p hp

end Table.Simulated

end Offload
