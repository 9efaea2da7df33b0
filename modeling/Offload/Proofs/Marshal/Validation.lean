import Mathlib.Data.List.Basic
import Mathlib.Tactic.Common
import Offload.Marshal

/-!
The check of arguments against their slots, and what the heap means to it.

What is wrong with a slot is said of that slot alone. The check is a search for such slots from the
left, so that the leftmost one decides, and what stands to the right of it does not matter.

A region's end stops at the last address, and its bytes are those before its end. So the last
address of all lies in no region, not even in one that reaches up to the top.
-/

namespace Offload

namespace Marshal

/-! ### Slots -/

section Slots

variable (s : Signature) (args : List Value) (heap : Region) (verify : Bool)

/-- A slot whose value has another kind, is the null receiver, or refers outside the heap. -/
def Faulty (i : Nat) : Prop :=
  ∃ kind v, s.slots[i]? = some kind ∧ args[i]? = some v ∧
    (v.kind ≠ kind ∨ (i = 0 ∧ s.hasReceiver = true ∧ v = .null) ∨
      (verify = true ∧ ∃ a, v = .object a ∧ a ≠ 0 ∧ heap.contains a = false))

/-- The fault that a slot is told of. Where the kinds differ, it is told of that alone: only a
reference in a slot for references can be a null receiver or lie outside the heap. -/
inductive Blames (i : Nat) : Fault → Prop
  | kind {expected : Kind} {v : Value} (hslot : s.slots[i]? = some expected)
      (hv : args[i]? = some v) (hne : v.kind ≠ expected) :
      Blames i (.argumentMismatch i expected v.kind)
  | receiver (hslot : s.slots[i]? = some .object) (hv : args[i]? = some .null) (hi : i = 0)
      (hr : s.hasReceiver = true) : Blames i .nullReceiver
  | outside {a : UInt64} (hslot : s.slots[i]? = some .object)
      (hv : args[i]? = some (.object a)) (hverify : verify = true) (hne : a ≠ 0)
      (hout : heap.contains a = false) : Blames i (.unregisteredObject i a)

/-- What the check finds in a slot, when it looks at that slot. -/
def faultAt? (i : Nat) : Option Fault :=
  s.slots[i]?.bind fun expected => args[i]?.bind fun v => slotFault? s heap verify i expected v

end Slots

variable {s : Signature} {args args' : List Value} {heap : Region} {verify : Bool} {i : Nat}
  {e : Fault}

lemma faultAt?_eq_some_iff :
    faultAt? s args heap verify i = some e ↔ ∃ expected v, s.slots[i]? = some expected ∧
      args[i]? = some v ∧ slotFault? s heap verify i expected v = some e := by
  simp only [faultAt?, Option.bind_eq_some_iff]
  constructor
  · rintro ⟨expected, hslot, v, hv, he⟩
    exact ⟨expected, v, hslot, hv, he⟩
  · rintro ⟨expected, v, hslot, hv, he⟩
    exact ⟨expected, hslot, v, hv, he⟩

lemma faultAt?_of_slot {expected : Kind} {v : Value} (hslot : s.slots[i]? = some expected)
    (hv : args[i]? = some v) :
    faultAt? s args heap verify i = slotFault? s heap verify i expected v := by
  rw [faultAt?, hslot, hv]
  rfl

lemma faultAt?_congr (h : args'[i]? = args[i]?) :
    faultAt? s args' heap verify i = faultAt? s args heap verify i := by
  rw [faultAt?, faultAt?, h]

/-- A reference in a slot for references is at fault as the null receiver or outside the heap. -/
lemma slotFault?_object (a : UInt64) :
    slotFault? s heap verify i .object (.object a) =
      if i = 0 ∧ s.hasReceiver = true ∧ a = 0 then some .nullReceiver
      else if verify = true ∧ a ≠ 0 ∧ heap.contains a = false then
        some (.unregisteredObject i a)
      else none := by
  simp [slotFault?, Value.kind, Value.address?]

lemma slotFault?_of_ne_object {v : Value} (hv : v.kind ≠ .object) :
    slotFault? s heap verify i v.kind v = none := by
  cases v with
  | object a => exact absurd rfl hv
  | _ => simp [slotFault?, Value.address?]

lemma exists_object_of_kind {v : Value} (h : v.kind = .object) : ∃ a, v = .object a := by
  cases v with
  | object a => exact ⟨a, rfl⟩
  | _ => cases h

/-- **One slot**: what the check finds in it is what it is told of. -/
lemma blames_iff : Blames s args heap verify i e ↔ faultAt? s args heap verify i = some e := by
  constructor
  · intro h
    cases h with
    | kind hslot hv hne => rw [faultAt?_of_slot hslot hv, slotFault?, if_pos hne]
    | receiver hslot hv hi hr =>
      rw [faultAt?_of_slot hslot hv, Value.null, slotFault?_object, if_pos ⟨hi, hr, rfl⟩]
    | outside hslot hv hverify hne hout =>
      rw [faultAt?_of_slot hslot hv, slotFault?_object, if_neg fun h => hne h.2.2,
        if_pos ⟨hverify, hne, hout⟩]
  · intro h
    obtain ⟨expected, v, hslot, hv, he⟩ := faultAt?_eq_some_iff.1 h
    by_cases hk : v.kind = expected
    · subst hk
      by_cases hobject : v.kind = .object
      · obtain ⟨a, rfl⟩ := exists_object_of_kind hobject
        rw [Value.kind, slotFault?_object] at he
        split_ifs at he with hreceiver hout
        · obtain ⟨hi, hr, rfl⟩ := hreceiver
          exact Option.some.inj he ▸ .receiver hslot hv hi hr
        · exact Option.some.inj he ▸ .outside hslot hv hout.1 hout.2.1 hout.2.2
      · rw [slotFault?_of_ne_object hobject] at he
        cases he
    · rw [slotFault?, if_pos hk] at he
      exact Option.some.inj he ▸ .kind hslot hv hk

/-- A slot is faulty exactly when it is told of a fault. -/
lemma faulty_iff : Faulty s args heap verify i ↔ ∃ e, Blames s args heap verify i e := by
  constructor
  · rintro ⟨kind, v, hslot, hv, hfault⟩
    by_cases hk : v.kind = kind
    · subst hk
      rcases hfault with hne | ⟨hi, hr, rfl⟩ | ⟨hverify, a, rfl, hne, hout⟩
      · exact absurd rfl hne
      · exact ⟨_, .receiver hslot hv hi hr⟩
      · exact ⟨_, .outside hslot hv hverify hne hout⟩
    · exact ⟨_, .kind hslot hv hk⟩
  · rintro ⟨e, h⟩
    cases h with
    | kind hslot hv hne => exact ⟨_, _, hslot, hv, .inl hne⟩
    | receiver hslot hv hi hr => exact ⟨_, _, hslot, hv, .inr (.inl ⟨hi, hr, rfl⟩)⟩
    | outside hslot hv hverify hne hout =>
      exact ⟨_, _, hslot, hv, .inr (.inr ⟨hverify, _, rfl, hne, hout⟩)⟩

lemma not_faulty_iff : ¬ Faulty s args heap verify i ↔ faultAt? s args heap verify i = none := by
  rw [faulty_iff, Option.eq_none_iff_forall_ne_some, not_exists]
  exact forall_congr' fun e => not_congr blames_iff

instance : Decidable (Faulty s args heap verify i) :=
  decidable_of_iff (faultAt? s args heap verify i ≠ none) (not_iff_comm.1 not_faulty_iff)

/-! ### The search -/

/-- A search stops at the first place where it finds something. -/
lemma findSome?_eq_some_iff_first {α β : Type} {l : List α} {f : α → Option β} {b : β} :
    l.findSome? f = some b ↔
      ∃ i : Nat, l[i]?.bind f = some b ∧ ∀ j < i, l[j]?.bind f = none := by
  induction l with
  | nil => simp
  | cons x l ih =>
    rw [List.findSome?_cons]
    rcases hx : f x with _ | b'
    · simp only [ih]
      constructor
      · rintro ⟨i, hi, hbefore⟩
        refine ⟨i + 1, hi, fun j hj => ?_⟩
        cases j with
        | zero => exact hx
        | succ j => exact hbefore j (by omega)
      · rintro ⟨i, hi, hbefore⟩
        cases i with
        | zero => exact absurd (hx.symm.trans hi) (by simp)
        | succ i => exact ⟨i, hi, fun j hj => hbefore (j + 1) (by omega)⟩
    · constructor
      · intro h
        exact ⟨0, hx.trans h, by omega⟩
      · rintro ⟨i, hi, hbefore⟩
        cases i with
        | zero => exact hx.symm.trans hi
        | succ i => exact absurd (hx.symm.trans (hbefore 0 (by omega))) (by simp)

/-- The check looks at the slots one by one. -/
lemma getElem?_bind_slotFault? (i : Nat) :
    ((s.slots.zip args).zipIdx[i]?.bind fun ((expected, v), i) =>
      slotFault? s heap verify i expected v) = faultAt? s args heap verify i := by
  rw [faultAt?, List.getElem?_zipIdx, List.zip, List.getElem?_zipWith]
  cases s.slots[i]? <;> cases args[i]? <;> simp

lemma validate_of_length_ne (h : args.length ≠ s.arity) :
    validate s args heap verify = .error (.argumentCount s.arity args.length) := by
  rw [validate, if_pos h]

/-- **The leftmost fault decides.** -/
lemma validate_eq_error_iff (h : args.length = s.arity) :
    validate s args heap verify = .error e ↔ ∃ i, faultAt? s args heap verify i = some e ∧
      ∀ j < i, faultAt? s args heap verify j = none := by
  simp only [← getElem?_bind_slotFault?]
  rw [← findSome?_eq_some_iff_first, validate, if_neg (not_not.2 h)]
  split
  · rename_i fault hsome
    rw [hsome, Except.error.injEq, Option.some.injEq]
  · rename_i hnone
    simp [hnone]

/-- The check passes when there is a value for each slot and no slot is at fault. -/
lemma validate_eq_ok_iff :
    validate s args heap verify = .ok () ↔
      args.length = s.arity ∧ ∀ i, ¬ Faulty s args heap verify i := by
  simp only [not_faulty_iff]
  by_cases h : args.length = s.arity
  · refine Iff.trans ?_ (and_iff_right h).symm
    constructor
    · intro hok i
      induction i using Nat.strongRecOn with
      | ind i ih =>
        -- a first fault would have been the result
        rcases he : faultAt? s args heap verify i with _ | e
        · rfl
        · rw [(validate_eq_error_iff h).2 ⟨i, he, ih⟩] at hok
          cases hok
    · intro hnone
      rcases hv : validate s args heap verify with e | u
      · obtain ⟨i, he, -⟩ := (validate_eq_error_iff h).1 hv
        rw [hnone i] at he
        cases he
      · rfl
  · rw [validate_of_length_ne h]
    simp [h]

/-- What stands to the right of a fault does not matter. -/
lemma validate_congr (hlen : args'.length = args.length)
    (h : faultAt? s args heap verify i ≠ none) (heq : ∀ j ≤ i, args'[j]? = args[j]?) :
    validate s args' heap verify = validate s args heap verify := by
  by_cases hcount : args.length = s.arity
  · rcases hv : validate s args heap verify with e | u
    · obtain ⟨k, he, hbefore⟩ := (validate_eq_error_iff hcount).1 hv
      have hk : k ≤ i := by
        by_contra hlt
        exact h (hbefore i (by omega))
      refine (validate_eq_error_iff (hlen.trans hcount)).2 ⟨k, ?_, fun j hj => ?_⟩
      · rw [faultAt?_congr (heq k hk), he]
      · rw [faultAt?_congr (heq j (by omega)), hbefore j hj]
    · exact absurd (not_faulty_iff.1 ((validate_eq_ok_iff.1 hv).2 i)) h
  · rw [validate_of_length_ne hcount, validate_of_length_ne (hlen ▸ hcount), hlen]

/-- **The leftmost fault is the answer**: a wrong number of arguments is refused as such. With the
right number the check passes exactly when no slot is faulty; otherwise it answers with what the
leftmost faulty slot is told of, whatever stands to the right of it. -/
theorem validate_leftmost (s : Signature) (args : List Value) (heap : Region) (verify : Bool) :
    (args.length ≠ s.arity →
      validate s args heap verify = .error (.argumentCount s.arity args.length)) ∧
    (args.length = s.arity →
      (validate s args heap verify = .ok () ↔ ∀ i, ¬ Faulty s args heap verify i) ∧
      ∀ i, Faulty s args heap verify i → (∀ j < i, ¬ Faulty s args heap verify j) →
        (∃ e, Blames s args heap verify i e) ∧
        (∀ e, Blames s args heap verify i e → validate s args heap verify = .error e) ∧
        ∀ args' : List Value, args'.length = args.length → (∀ j ≤ i, args'[j]? = args[j]?) →
          validate s args' heap verify = validate s args heap verify) := by
  refine ⟨validate_of_length_ne, fun hcount => ⟨?_, fun i hi hbefore => ⟨?_, fun e he => ?_, ?_⟩⟩⟩
  · rw [validate_eq_ok_iff, and_iff_right hcount]
  · exact faulty_iff.1 hi
  · exact (validate_eq_error_iff hcount).2
      ⟨i, blames_iff.1 he, fun j hj => not_faulty_iff.1 (hbefore j hj)⟩
  · intro args' hlen heq
    exact validate_congr hlen (fun hnone => not_faulty_iff.2 hnone hi) heq

/-- Two faults: a reference outside the heap, and to the right of it a long for a byte. -/
theorem validate_leftmost_two :
    let s : Signature := ⟨[.int, .object, .byte], true, none⟩
    let args (last : Value) : List Value := [.object 4096, .int 7, .object 0x9000, last]
    let heap : Region := ⟨4096, 64⟩
    validate s (args (.long 1)) heap true = .error (.unregisteredObject 2 0x9000) ∧
      validate s (args (.byte 1)) heap true = .error (.unregisteredObject 2 0x9000) ∧
      validate s [.long 1] heap true = .error (.argumentCount 4 1) := by
  intro s args heap
  obtain ⟨-, hanswer, hright⟩ := ((validate_leftmost s (args (.long 1)) heap true).2 rfl).2 2
    (by decide) (by decide)
  have htold := hanswer _ (.outside rfl rfl rfl (by decide) rfl)
  exact ⟨htold, (hright (args (.byte 1)) rfl (by decide)).trans htold,
    (validate_leftmost s [.long 1] heap true).1 (by decide)⟩

end Marshal

/-! ### The bytes of a region -/

namespace Region

variable (r : Region)

/-- An address of one of the region's bytes, which are counted from its base. -/
def Spans (a : UInt64) : Prop :=
  r.base.toNat ≤ a.toNat ∧ a.toNat - r.base.toNat < r.size.toNat

instance (a : UInt64) : Decidable (r.Spans a) := by
  unfold Spans
  infer_instance

variable {r} {a : UInt64}

/-- A region holds its bytes up to the last address, which no region holds. -/
lemma contains_iff_spans :
    r.contains a = true ↔ r.Spans a ∧ a.toNat ≠ UInt64.size - 1 := by
  have hlt := a.toNat_lt
  rw [contains_iff, toNat_stop, Spans, UInt64.size]
  omega

end Region

namespace Marshal

variable {s : Signature} {args : List Value} {r : Region} {i : Nat} {a : UInt64}

/-- In a slot for references, one that is not null is at fault when the region does not hold it. -/
lemma faulty_object_iff (hslot : s.slots[i]? = some .object) (hv : args[i]? = some (.object a))
    (hne : a ≠ 0) : Faulty s args r true i ↔ r.contains a = false := by
  rw [← not_iff_not, not_faulty_iff, faultAt?_of_slot hslot hv, slotFault?_object,
    if_neg fun h => hne h.2.2]
  simp [hne]

/-- **The bytes that a region holds**, and that the check lets a reference point to: all that it
spans but for the last address. A reference that is not null passes the check in an object slot,
where nothing else is wrong, exactly when it points to one of them. -/
theorem contains_spanned_below_last (r : Region) (a : UInt64) :
    (r.contains a = true ↔ r.Spans a ∧ a.toNat ≠ UInt64.size - 1) ∧
    ∀ (s : Signature) (args : List Value) (i : Nat), args.length = s.arity →
      s.slots[i]? = some .object → args[i]? = some (.object a) → a ≠ 0 →
      (∀ j ≠ i, ¬ Faulty s args r true j) →
      (validate s args r true = .ok () ↔ r.Spans a ∧ a.toNat ≠ UInt64.size - 1) := by
  refine ⟨Region.contains_iff_spans, fun s args i hcount hslot hv hne hothers => ?_⟩
  rw [validate_eq_ok_iff, and_iff_right hcount, ← Region.contains_iff_spans]
  constructor
  · intro h
    have hi := h i
    rwa [faulty_object_iff hslot hv hne, Bool.not_eq_false] at hi
  · intro h j
    by_cases hj : j = i
    · subst hj
      rwa [faulty_object_iff hslot hv hne, Bool.not_eq_false]
    · exact hothers j hj

/-- The byte before the last address, in a region that reaches up to the top. -/
theorem contains_spanned_below_last_byte :
    let s : Signature := ⟨[.int, .object], false, none⟩
    let args : List Value := [.int 7, .object 0xfffffffffffffffe]
    validate s args ⟨0xfffffffffffffff0, 0x10⟩ true = .ok () := by
  intro s args
  refine ((contains_spanned_below_last ⟨0xfffffffffffffff0, 0x10⟩ 0xfffffffffffffffe).2 s args 1
    rfl rfl rfl (by decide) fun j hj => ?_).2 (by decide)
  rcases j with _ | _ | j
  · decide
  · exact absurd rfl hj
  · rintro ⟨kind, v, hslot, -⟩
    cases hslot

/-- The last address is a byte of this region, which lies in the address space. The region does not
hold it, and the check refuses a reference to it. -/
theorem spanned_last_not_contained :
    let r : Region := ⟨0xfffffffffffffff0, 0x10⟩
    let a : UInt64 := 0xffffffffffffffff
    r.base.toNat + r.size.toNat ≤ UInt64.size ∧ r.Spans a ∧ r.contains a = false ∧
      validate ⟨[.object], false, none⟩ [.object a] r true =
        .error (.unregisteredObject 0 a) := by
  decide

end Marshal

end Offload
