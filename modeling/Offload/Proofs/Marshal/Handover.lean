import Offload.Proofs.Bridge.Actions
import Offload.Proofs.Marshal.Validation

/-!
What a launch hands over to the runtime, and that nothing of the arguments is lost on the way.

A launch chooses the push of a value by the value; what is promised is the push that the kind of
the slot names. Checked arguments have the kinds of their slots, so the two agree. The same makes
up for the kinds that share a push: lists that fit the same slots and differ are handed over
differently.
-/

namespace Offload

open Simulator (EntryPoint Fleet Handle)

/-- A value as it arrives: a short is widened with its sign and a char with zeros, and any other
payload stays the same bit by bit. -/
inductive Value.Carried : Value → Pushed → Prop
  | object (a : UInt64) : Carried (.object a) (.object a)
  | boolean (v : Bool) : Carried (.boolean v) (.boolean v)
  | byte (v : Int8) : Carried (.byte v) (.byte v)
  | short (v : Int16) (w : Int32) (h : w.toBitVec = v.toBitVec.signExtend 32) :
      Carried (.short v) (.int w)
  | char (u : UInt16) (w : Int32) (h : w.toBitVec = u.toBitVec.setWidth 32) :
      Carried (.char u) (.int w)
  | int (v : Int32) : Carried (.int v) (.int v)
  | long (v : Int64) : Carried (.long v) (.long v)
  | float (bits : UInt32) : Carried (.float bits) (.float bits)
  | double (bits : UInt64) : Carried (.double bits) (.double bits)

/-- What is handed over for the arguments of a signature, with the entry point for each: one value
for one slot, in order, through the push that the kind of the slot names. -/
structure Handed (t : Table EntryPoint) (s : Signature) (args : List Value)
    (given : List (EntryPoint × Pushed)) : Prop where
  args_length : args.length = s.slots.length
  length : given.length = s.slots.length
  slot : ∀ (i : Nat) (kind : Kind) (v : Value), s.slots[i]? = some kind → args[i]? = some v →
    ∃ arg : Pushed, v.Carried arg ∧ given[i]? = some (t.push kind.push, arg)

namespace Simulator.Fleet

/-- Hands values over to a kernel, each through its entry point, up to the first that is refused,
and says whether all were taken. -/
def handOver (f : Fleet) (kernel : Handle) : List (EntryPoint × Pushed) → Bool × Fleet
  | [] => (true, f)
  | (p, arg) :: rest =>
    let (taken, f') := f.push p kernel arg
    if taken then f'.handOver kernel rest else (false, f')

/-- All calls of a launch: the kernel is cleared, the values are handed over, and it is executed,
as far as nothing is refused. -/
def launched (f : Fleet) (t : Table EntryPoint) (kernel : Handle)
    (given : List (EntryPoint × Pushed)) (dim : Int32) : Fleet :=
  let (cleared, f₁) := f.clearArgs t.clearArgs kernel
  if cleared then
    let (taken, f₂) := f₁.handOver kernel given
    if taken then (f₂.execute t.execute kernel dim).2 else f₂
  else f₁

end Simulator.Fleet

namespace Value

variable {v w : Value} {arg : Pushed}

lemma toInt32_injective {a b : Int16} (h : a.toInt32 = b.toInt32) : a = b := by
  have hint := congrArg Int32.toInt h
  rwa [Int16.toInt_toInt32, Int16.toInt_toInt32, Int16.toInt_inj] at hint

lemma toBitVec_ofNat_unit (u : UInt16) :
    (Int32.ofNat u.toNat).toBitVec = u.toBitVec.setWidth 32 := by
  apply BitVec.eq_of_toNat_eq
  simp

lemma ofNat_unit_injective {a b : UInt16} (h : Int32.ofNat a.toNat = Int32.ofNat b.toNat) :
    a = b := by
  have hbits : BitVec.ofNat 32 a.toNat = BitVec.ofNat 32 b.toNat := congrArg Int32.toBitVec h
  have hnat := congrArg BitVec.toNat hbits
  rw [BitVec.toNat_ofNat, BitVec.toNat_ofNat] at hnat
  have ha := a.toNat_lt
  have hb := b.toNat_lt
  apply UInt16.toNat_inj.1
  omega

lemma carried_iff : v.Carried arg ↔ arg = v.pushed := by
  constructor
  · intro h
    cases h with
    | short v w h =>
      rw [← Int16.toBitVec_toInt32, Int32.toBitVec_inj] at h
      rw [h]
      rfl
    | char u w h =>
      rw [← toBitVec_ofNat_unit, Int32.toBitVec_inj] at h
      rw [h]
      rfl
    | _ => rfl
  · rintro rfl
    cases v with
    | object a => exact .object a
    | boolean v => exact .boolean v
    | byte v => exact .byte v
    | short v => exact .short v _ v.toBitVec_toInt32
    | char u => exact .char u _ (toBitVec_ofNat_unit u)
    | int v => exact .int v
    | long v => exact .long v
    | float bits => exact .float bits
    | double bits => exact .double bits

/-- Values of one kind that arrive as the same were the same. -/
lemma eq_of_pushed (hk : v.kind = w.kind) (h : v.pushed = w.pushed) : v = w := by
  cases v <;> cases w <;> cases hk
  case short.refl a b => rw [toInt32_injective (Pushed.int.inj h)]
  case char.refl a b => rw [ofNat_unit_injective (Pushed.int.inj h)]
  all_goals
    cases h
    rfl

/-- A value as a launch hands it over. -/
def handed (t : Table EntryPoint) (v : Value) : EntryPoint × Pushed :=
  (t.push v.pushed.kind, v.pushed)

end Value

namespace Marshal

variable {s : Signature} {args : List Value} {heap : Region} {verify : Bool}

/-- Arguments that pass the check have the kinds of their slots. -/
lemma kinds_of_validate (h : validate s args heap verify = .ok ()) :
    args.map Value.kind = s.slots := by
  obtain ⟨hlen, hsound⟩ := validate_eq_ok_iff.1 h
  refine List.ext_getElem (by simp [hlen]) fun i hi hi' => ?_
  rw [List.length_map] at hi
  by_contra hne
  rw [List.getElem_map] at hne
  exact hsound i
    ⟨_, _, List.getElem?_eq_getElem hi', List.getElem?_eq_getElem hi, .inl hne⟩

/-- What is handed over for arguments that pass the check is what their slots ask for. -/
lemma handed_of_validate (h : validate s args heap verify = .ok ()) (t : Table EntryPoint) :
    Handed t s args (args.map (Value.handed t)) := by
  have hkinds := kinds_of_validate h
  have hlen : args.length = s.slots.length := by rw [← hkinds, List.length_map]
  refine ⟨hlen, by rw [List.length_map, hlen], fun i kind v hkind hv => ?_⟩
  have hslot : v.kind = kind := by
    rw [← hkinds, List.getElem?_map, hv] at hkind
    exact Option.some.inj hkind
  refine ⟨v.pushed, Value.carried_iff.2 rfl, ?_⟩
  rw [List.getElem?_map, hv, Option.map_some, Value.handed, Value.kind_pushed, hslot]

end Marshal

lemma Handed.map_snd {t : Table EntryPoint} {s : Signature} {args : List Value}
    {given : List (EntryPoint × Pushed)} (h : Handed t s args given) :
    given.map Prod.snd = args.map Value.pushed := by
  refine List.ext_getElem (by simp [h.length, h.args_length]) fun i hi hi' => ?_
  rw [List.length_map] at hi hi'
  have hslot : i < s.slots.length := h.args_length ▸ hi'
  obtain ⟨arg, hcarried, hgiven⟩ := h.slot i _ _ (List.getElem?_eq_getElem hslot)
    (List.getElem?_eq_getElem hi')
  rw [List.getElem?_eq_getElem hi, Option.some.injEq] at hgiven
  rw [List.getElem_map, List.getElem_map, hgiven]
  exact Value.carried_iff.1 hcarried

namespace Bridge

open Offload.Action

variable {d : Device} {k : Kernel} {scene : Scene}

lemma pushAll_hands_over (i : Nat) (args : List Value) :
    (pushAll d k i args).Ends scene fun r scene' =>
      ((faultOf r).isNone, scene'.fleet) =
        scene.fleet.handOver k.handle (args.map (Value.handed d.table)) := by
  induction args generalizing scene i with
  | nil => exact ends_of_ok (pure_apply () scene) rfl
  | cons v args ih =>
    change (pushOne d k i v >>= fun _ => pushAll d k (i + 1) args).Ends scene _
    rw [List.map_cons, Value.handed]
    rcases hp : (scene.fleet.push (d.table.push v.pushed.kind) k.handle v.pushed).1
    · obtain ⟨notices, heq⟩ := pushOne_of_failed (i := i) hp
      refine Ends.bind_of_error heq ?_
      simp only [Fleet.handOver, hp]
      rfl
    · refine Ends.bind_of_ok (pushOne_of_pushed hp) ((ih (i + 1)).mono fun r scene' hr => ?_)
      simpa only [Fleet.handOver, hp, if_true] using hr

/-- A launch that passes its check makes its calls, and no others. -/
lemma launchOn_launched {dim : Int32} {args : List Value} {signature : Signature} {range : Range}
    (hc : check scene k dim args signature = .ok range) :
    (launchOn d k dim args signature).Ends scene fun _ scene' =>
      scene'.fleet =
        scene.fleet.launched d.table k.handle (args.map (Value.handed d.table)) dim := by
  obtain ⟨hdim, -⟩ := of_check_eq_ok hc
  rcases hcl : (scene.fleet.clearArgs d.table.clearArgs k.handle).1
  · refine ends_of_error (launchOn_of_not_cleared hc hcl) ?_
    simp [Fleet.launched, hcl]
  refine Ends.of_eq (launchOn_of_cleared hc hcl)
    (Ends.bind ((pushAll_hands_over 0 args).mono fun r scene' hr => ?_))
  obtain ⟨htaken, hfleet⟩ := Prod.mk.inj hr
  unfold Fleet.launched
  simp only [hcl, if_true, ← htaken, ← hfleet]
  rcases r with e | u
  · simp
  · rcases hx : (scene'.fleet.execute d.table.execute k.handle range.dim).1
    · obtain ⟨notices, heq⟩ := execute_of_failed hx
      refine ends_of_error heq ?_
      simp [hdim]
    · obtain ⟨notices, heq⟩ := execute_of_ran hx
      refine ends_of_ok heq ?_
      simp [hdim]

/-- **Arguments arrive as declared**: a launch that is over a heap on which its arguments pass the
check hands over one value for each slot, in order and through the push that the slot's kind names,
and its other calls are the clearing before and the execution after. Two lists of arguments for one
signature of which the same values are handed over are the same list. -/
theorem arguments_handed_over {s : Signature} (hs : s.isVoid = true) {args : List Value}
    {heap : Region} {verify : Bool} (h : Marshal.validate s args heap verify = .ok ()) :
    (∀ (d : Device) (k : Kernel) (dim : Int32) (scene : Scene), 0 < dim →
      scene.bridge.heap? = some heap → scene.bridge.settings.verifyObjects = verify →
      ∃ given, Handed d.table s args given ∧
        (launchOn d k dim args s).Ends scene fun _ scene' =>
          scene'.fleet = scene.fleet.launched d.table k.handle given dim) ∧
    ∀ (args' : List Value) (heap' : Region) (verify' : Bool) (t t' : Table EntryPoint)
      (given given' : List (EntryPoint × Pushed)),
      Marshal.validate s args' heap' verify' = .ok () → Handed t s args given →
      Handed t' s args' given' → given.map Prod.snd = given'.map Prod.snd → args = args' := by
  refine ⟨fun d k dim scene hdim hheap hverify => ?_,
    fun args' heap' verify' t t' given given' h' hgiven hgiven' heq => ?_⟩
  · have hc : check scene k dim args s = .ok ⟨dim, hdim⟩ := by
      rw [check_apply, dif_pos hdim, if_pos hs, hheap, hverify]
      simp only [h]
      rfl
    exact ⟨_, Marshal.handed_of_validate h d.table, launchOn_launched hc⟩
  · rw [hgiven.map_snd, hgiven'.map_snd] at heq
    have hkinds : args.map Value.kind = args'.map Value.kind := by
      rw [Marshal.kinds_of_validate h, Marshal.kinds_of_validate h']
    refine List.ext_getElem (by simpa using congrArg List.length heq) fun i hi hi' => ?_
    have hkind := congrArg (·[i]?) hkinds
    have hpushed := congrArg (·[i]?) heq
    simp only [List.getElem?_map, List.getElem?_eq_getElem hi, List.getElem?_eq_getElem hi',
      Option.map_some, Option.some.injEq] at hkind hpushed
    exact Value.eq_of_pushed hkind hpushed

/-- A short and a char of the same sixteen bits ride the same push and arrive apart; and had the
char been another one, so would have been what arrives. -/
theorem arguments_handed_over_widened :
    let s : Signature := ⟨[.short, .char, .float], true, none⟩
    let args (u : UInt16) : List Value :=
      [.object 4096, .short (-2), .char u, .float 0x7fc00001]
    let k : Kernel := ⟨0, .encode 0 (.kernel 0), "k", 0⟩
    let scene := ((connect >>= fun d => registerOn d ⟨4096, 64⟩).outcome
      (.of (.of 0 (.simulated 0) .default) (Fleet.empty.install {}))).2
    ∃ d given, scene.bridge.device = .ready d ∧ Handed d.table s (args 65534) given ∧
      given.map Prod.snd = [.object 4096, .int (-2), .int 65534, .float 0x7fc00001] ∧
      ((launchOn d k 16 (args 65534) s).Ends scene fun _ scene' =>
        scene'.fleet = scene.fleet.launched d.table k.handle given 16) ∧
      ∀ given', Handed d.table s (args 2) given' → given.map Prod.snd ≠ given'.map Prod.snd := by
  intro s args k scene
  have hvalid : Marshal.validate s (args 65534) ⟨4096, 64⟩ true = .ok () := by rfl
  obtain ⟨hlaunched, hlossless⟩ := arguments_handed_over (s := s) rfl hvalid
  obtain ⟨d, hd⟩ : ∃ d, scene.bridge.device = .ready d := ⟨_, rfl⟩
  obtain ⟨given, hgiven, hends⟩ := hlaunched d k 16 scene (by decide) (by rfl) (by rfl)
  refine ⟨d, given, hd, hgiven, hgiven.map_snd.trans (by decide), hends,
    fun given' hgiven' heq => ?_⟩
  have hargs := hlossless (args 2) ⟨4096, 64⟩ true _ _ given given' (by rfl) hgiven hgiven' heq
  revert hargs
  decide

end Bridge

end Offload
