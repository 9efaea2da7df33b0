import Offload.Proofs.Json.Skip
import Offload.Settings.Sources

/-!
Settings from an object: what a member sets is replaced, whatever the members stand in order, and
whatever else the object holds.

An object is taken as the members that its text spells. The reader adds them to its draft one by
one; it stops at a member that has been there before, and at a number of cores that is none. That a
run gets through then is a matter of the members alone.
-/

namespace Offload.Settings

open Json

/-! ### Members -/

/-- A member of an object: one that sets something, or one with a key that is not known. -/
inductive Member
  | library (path : String)
  | fallbackCores (n : Nat)
  | verifyObjects (flag : Bool)
  | other (key : String) (unknown : ∀ f : Field, f.key ≠ key)

def Member.field? : Member → Option Field
  | .library _ => some .library
  | .fallbackCores _ => some .fallbackCores
  | .verifyObjects _ => some .verifyObjects
  | .other .. => none

def Member.key : Member → String
  | .other key _ => key
  | .library _ => Field.library.key
  | .fallbackCores _ => Field.fallbackCores.key
  | .verifyObjects _ => Field.verifyObjects.key

/-- The settings with what the member says in place of what was there. -/
def Member.set (s : Settings) : Member → Settings
  | .library path => { s with library := Text.utf8 path }
  | .fallbackCores n => { s with fallbackCores := UInt32.ofNat n }
  | .verifyObjects flag => { s with verifyObjects := flag }
  | .other .. => s

/-- The default settings with what the members say in its place. -/
def overridden (ms : List Member) : Settings := ms.foldl Member.set default

/-- No member is there twice, and a number of cores fits its range. -/
structure Acceptable (ms : List Member) : Prop where
  once : (ms.filterMap Member.field?).Nodup
  fits : ∀ n, .fallbackCores n ∈ ms → n < UInt32.size

/-! ### Their texts -/

inductive MemberValue : Member → List Char → Prop
  | library {path : String} {cs : List Char} (h : StringText path.toList cs) :
      MemberValue (.library path) cs
  | fallbackCores {n : Nat} {cs : List Char} (h : WholeText n cs) :
      MemberValue (.fallbackCores n) cs
  | verifyObjects (flag : Bool) :
      MemberValue (.verifyObjects flag) (if flag then "true" else "false").toList
  | other {key : String} {unknown : ∀ f : Field, f.key ≠ key} {cs : List Char}
      (h : Formed .value cs) : MemberValue (.other key unknown) cs

inductive MemberText : Member → List Char → Prop
  | mk {m : Member} {value cs after : List Char} (hvalue : MemberValue m value)
      (hcs : EntryText m.key.toList value cs) (hafter : Spaces after) : MemberText m (cs ++ after)

inductive MembersText : List Member → List Char → Prop
  | last {m : Member} {cs : List Char} (h : MemberText m cs) : MembersText [m] cs
  | next {m : Member} {ms : List Member} {cs ds : List Char} (h : MemberText m cs)
      (hs : MembersText ms ds) : MembersText (m :: ms) (cs ++ ',' :: ds)

/-- An object with these members, and space around it. -/
inductive ObjectText : List Member → List Char → Prop
  | empty {before space after : List Char} (hbefore : Spaces before) (hspace : Spaces space)
      (hafter : Spaces after) :
      ObjectText [] (before ++ '\x7b' :: (space ++ '\x7d' :: after))
  | members {ms : List Member} {before cs after : List Char} (hbefore : Spaces before)
      (h : MembersText ms cs) (hafter : Spaces after) :
      ObjectText ms (before ++ '\x7b' :: (cs ++ '\x7d' :: after))

/-! ### The draft -/

namespace Draft

def put (d : Draft) : Member → Draft
  | .library path => { d with library := some path.toList }
  | .fallbackCores n => { d with fallbackCores := some (UInt32.ofNat n) }
  | .verifyObjects flag => { d with verifyObjects := some flag }
  | .other .. => d

/-- Why a member is not added to a draft. -/
def Refuses (d : Draft) (m : Member) : Prop :=
  (∃ f, m.field? = some f ∧ d.has f = true) ∨ ∃ n, m = .fallbackCores n ∧ UInt32.size ≤ n

/-- Every member can be added, each to the draft that the ones before it leave. -/
def Accepts (d : Draft) : List Member → Prop
  | [] => True
  | m :: ms => ¬ d.Refuses m ∧ (d.put m).Accepts ms

lemma settings_put (d : Draft) (m : Member) : (d.put m).settings = m.set d.settings := by
  cases m <;> simp [put, settings, Member.set]

lemma settings_foldl_put (d : Draft) (ms : List Member) :
    (ms.foldl put d).settings = ms.foldl Member.set d.settings := by
  induction ms generalizing d with
  | nil => rfl
  | cons m ms ih => rw [List.foldl_cons, ih, settings_put, List.foldl_cons]

lemma has_put (d : Draft) (m : Member) (f : Field) :
    (d.put m).has f = true ↔ d.has f = true ∨ m.field? = some f := by
  cases m <;> cases f <;> simp [put, has, Member.field?]

end Draft

lemma acceptable_cons {m : Member} {ms : List Member} :
    Acceptable (m :: ms) ↔ (∀ f, m.field? = some f → f ∉ ms.filterMap Member.field?) ∧
      (∀ n, m = .fallbackCores n → n < UInt32.size) ∧ Acceptable ms := by
  have honce : ((m :: ms).filterMap Member.field?).Nodup ↔
      (∀ f, m.field? = some f → f ∉ ms.filterMap Member.field?) ∧
        (ms.filterMap Member.field?).Nodup := by
    rw [List.filterMap_cons]
    cases hf : m.field? with
    | none => simp
    | some f => simp
  constructor
  · rintro ⟨h, hfits⟩
    exact ⟨(honce.1 h).1, fun n hn => hfits n (by simp [hn]), (honce.1 h).2,
      fun n hn => hfits n (List.mem_cons_of_mem m hn)⟩
  · rintro ⟨hnew, hn, h, hfits⟩
    refine ⟨honce.2 ⟨hnew, h⟩, fun n hmem => ?_⟩
    rcases List.mem_cons.1 hmem with heq | hmem
    · exact hn n heq.symm
    · exact hfits n hmem

/-- A draft accepts members that are acceptable by themselves and set nothing that it holds. -/
lemma Draft.accepts_iff (d : Draft) (ms : List Member) :
    d.Accepts ms ↔ Acceptable ms ∧ ∀ f ∈ ms.filterMap Member.field?, ¬ d.has f = true := by
  induction ms generalizing d with
  | nil => exact ⟨fun _ => ⟨⟨by simp, by simp⟩, by simp⟩, fun _ => trivial⟩
  | cons m ms ih =>
    have hrefuses : ¬ d.Refuses m ↔ (∀ f, m.field? = some f → ¬ d.has f = true) ∧
        ∀ n, m = .fallbackCores n → n < UInt32.size := by
      simp only [Refuses, not_or, not_exists, not_and, Nat.not_le]
    have hmem : ∀ f, f ∈ (m :: ms).filterMap Member.field? ↔
        m.field? = some f ∨ f ∈ ms.filterMap Member.field? := by
      simp [List.mem_filterMap]
    rw [Accepts, ih, hrefuses, acceptable_cons]
    simp only [has_put, hmem]
    constructor
    · rintro ⟨⟨hheld, hfits⟩, h, hnew⟩
      refine ⟨⟨fun f hf hlater => hnew f hlater (.inr hf), hfits, h⟩, fun f hf => ?_⟩
      rcases hf with hf | hf
      · exact hheld f hf
      · exact fun hhas => hnew f hf (.inl hhas)
    · rintro ⟨⟨hnew, hfits, h⟩, hheld⟩
      refine ⟨⟨fun f hf => hheld f (.inl hf), hfits⟩, h, fun f hf hhas => ?_⟩
      rcases hhas with hhas | hhas
      · exact hheld f (.inr hf) hhas
      · exact hnew f hhas hf

/-! ### Values -/

variable {sp rest cs ds : List Char}

lemma pathValue_append (hsp : Spaces sp) {path : List Char} (h : StringText path cs)
    (rest : List Char) : pathValue (sp ++ (cs ++ rest)) = .ok (path, rest) := by
  obtain @⟨body, hbody⟩ := h
  have hstart : skipSpace (sp ++ ('"' :: body ++ ['"'] ++ rest)) = '"' :: (body ++ '"' :: rest) := by
    have h := skipSpace_of_spaces hsp (c := '"') (by decide) (body ++ '"' :: rest)
    simpa using h
  rw [pathValue, hstart]
  exact hbody.string rest

/-- A number of cores is read as the number, as far as it is one. -/
lemma coresValue_append (hsp : Spaces sp) {n : Nat} (h : WholeText n cs)
    (hrest : EndsNumber rest) :
    (n < UInt32.size → coresValue (sp ++ (cs ++ rest)) = .ok (UInt32.ofNat n, rest)) ∧
    (UInt32.size ≤ n → ∃ stop, coresValue (sp ++ (cs ++ rest)) = .error stop) := by
  have hvalue : coresValue (sp ++ (cs ++ rest)) =
      (number false (cs ++ rest)).bind fun p => coreCount p.1 p.2 := by
    obtain ⟨c, r, rfl, hc⟩ := h.head
    have hspace : isSpace c = false := by
      have hnot := not_mem_of_isDigit hc
      simp only [List.mem_cons, not_or] at hnot
      simp [isSpace, hnot]
    have hminus : c ≠ '-' := by
      rintro rfl
      cases hc
    rw [coresValue, List.cons_append, skipSpace_of_spaces hsp hspace]
    simp only [if_neg hminus, hc, if_true]
  rw [hvalue]
  refine ⟨fun hn => ?_, fun hn => ?_⟩
  · rw [h.number (by simp only [wordLimit, UInt64.size, UInt32.size] at hn ⊢; omega) hrest]
    exact if_pos hn
  · by_cases hword : n ≤ wordLimit
    · rw [h.number hword hrest]
      exact ⟨_, if_neg (Nat.not_lt.2 hn)⟩
    · obtain ⟨v, left, hnumber⟩ := h.number_beyond (Nat.not_le.1 hword) hrest
      rw [hnumber, double]
      split
      · exact ⟨_, rfl⟩
      · exact ⟨_, rfl⟩

lemma flagValue_append (hsp : Spaces sp) (flag : Bool) (rest : List Char) :
    flagValue (sp ++ ((if flag then "true" else "false").toList ++ rest)) = .ok (flag, rest) := by
  cases flag with
  | true =>
    have h := skipSpace_of_spaces hsp (c := 't') (by decide) (['r', 'u', 'e'] ++ rest)
    change flagValue (sp ++ 't' :: (['r', 'u', 'e'] ++ rest)) = _
    rw [flagValue, h]
    rfl
  | false =>
    have h := skipSpace_of_spaces hsp (c := 'f') (by decide) (['a', 'l', 's', 'e'] ++ rest)
    change flagValue (sp ++ 'f' :: (['a', 'l', 's', 'e'] ++ rest)) = _
    rw [flagValue, h]
    rfl

/-! ### One member -/

lemma Field.ofKey?_eq_none {key : String} (h : ∀ f : Field, f.key ≠ key) :
    Field.ofKey? key.toList = none := by
  rw [Field.ofKey?, List.find?_eq_none]
  intro f _ heq
  exact h f (String.toList_inj.1 (of_decide_eq_true heq))

lemma Member.ofKey?_key (m : Member) : Field.ofKey? m.key.toList = m.field? := by
  cases m with
  | other key unknown => exact Field.ofKey?_eq_none unknown
  | library => exact Field.ofKey?_key .library
  | fallbackCores => exact Field.ofKey?_key .fallbackCores
  | verifyObjects => exact Field.ofKey?_key .verifyObjects

/-- What reading a member into a draft comes to, with a rest left behind it: the draft takes the
member, unless it refuses it. -/
structure Draft.Takes (d : Draft) (m : Member) (rest : List Char)
    (result : Except Stop (Draft × List Char)) : Prop where
  taken : ¬ d.Refuses m → result = .ok (d.put m, rest)
  stopped : d.Refuses m → ∃ stop, result = .error stop

lemma duplicate_eq_error {α : Type} (f : Field) (t : List Char) :
    ∃ stop, (duplicate f t : Except Stop α) = .error stop := by
  unfold duplicate
  split
  · exact ⟨_, rfl⟩
  · exact ⟨_, rfl⟩

variable {m : Member}

/-- A member whose key is known is refused for its key, or else by its value alone. -/
lemma Draft.takes_of_known {d : Draft} {f : Field} {result : Except Stop (Draft × List Char)}
    (hf : m.field? = some f) (hok : ¬ d.Refuses m → result = .ok (d.put m, rest))
    (hlarge : (∃ n, m = .fallbackCores n ∧ UInt32.size ≤ n) → ∃ stop, result = .error stop)
    (t : List Char) : d.Takes m rest (if d.has f then duplicate f t else result) := by
  by_cases hhas : d.has f = true
  · rw [if_pos hhas]
    exact ⟨fun hnot => absurd (.inl ⟨f, hf, hhas⟩) hnot, fun _ => duplicate_eq_error f t⟩
  · rw [if_neg hhas]
    refine ⟨hok, fun hrefused => hlarge (hrefused.resolve_left ?_)⟩
    rintro ⟨f', hf', hhas'⟩
    obtain rfl := Option.some.inj (hf.symm.trans hf')
    exact hhas hhas'

/-- The value of a member is read into the draft behind the colon, or skipped. -/
lemma MemberValue.takes {value : List Char} (h : MemberValue m value) (hsp : Spaces sp)
    (hrest : EndsNumber rest) (d : Draft) (t : List Char) :
    d.Takes m rest (m.field?.elim ((skipValue (sp ++ (value ++ rest))).map (Prod.mk d))
      fun f => if d.has f then duplicate f t else memberValue d f (sp ++ (value ++ rest))) := by
  cases h with
  | library h =>
    refine Draft.takes_of_known rfl (fun _ => ?_) (by rintro ⟨n, ⟨⟩, -⟩) t
    rw [memberValue, pathValue_append hsp h]
    rfl
  | @fallbackCores n _ h =>
    obtain ⟨hfits, hlarge⟩ := coresValue_append hsp h hrest
    refine Draft.takes_of_known rfl (fun hnot => ?_) ?_ t
    · rw [memberValue, hfits (Nat.not_le.1 fun hle => hnot (.inr ⟨n, rfl, hle⟩))]
      rfl
    · rintro ⟨n', ⟨⟩, hle⟩
      obtain ⟨stop, hstop⟩ := hlarge hle
      exact ⟨stop, by rw [memberValue, hstop]; rfl⟩
  | verifyObjects flag =>
    refine Draft.takes_of_known rfl (fun _ => ?_) (by rintro ⟨n, ⟨⟩, -⟩) t
    rw [memberValue, flagValue_append hsp]
    rfl
  | other h =>
    refine ⟨fun _ => ?_, ?_⟩
    · change (skipValue _).map _ = _
      rw [skipValue_append hsp h hrest]
      rfl
    · rintro (⟨f, ⟨⟩, -⟩ | ⟨n, ⟨⟩, -⟩)

/-- Behind the key and the colon of a member, it is the value that decides. -/
lemma member_eq {t u v : List Char} (hkey : string t = .ok (m.key.toList, u))
    (hcolon : colon u = .ok v) (d : Draft) :
    Settings.member d t = m.field?.elim ((skipValue v).map (Prod.mk d))
      fun f => if d.has f then duplicate f u else memberValue d f v := by
  simp only [Settings.member, hkey, bind, Except.bind, m.ofKey?_key, hcolon]
  cases m.field? with
  | none => rfl
  | some f => rfl

/-- **One member**: what follows its opening quote is read into the draft, or stops the reader. -/
lemma MemberText.member (h : MemberText m cs) {c : Char} (hc : c ∈ [',', '\x7d'])
    (r : List Char) : ∃ t after, Spaces after ∧ skipSpace (cs ++ c :: r) = '"' :: t ∧
      ∀ d : Draft, d.Takes m (after ++ c :: r) (Settings.member d t) := by
  obtain @⟨value, cs, after, hvalue, hcs, hafter⟩ := h
  obtain ⟨body, t, space, hbody, hspace, hstart, hcolon⟩ := hcs.shape (after ++ c :: r)
  have hends : EndsNumber (after ++ c :: r) := hafter.endsNumber (by
    simp only [List.mem_cons, List.not_mem_nil, or_false] at hc ⊢
    tauto) r
  refine ⟨body ++ '"' :: t, after, hafter, by rw [List.append_assoc, hstart], fun d => ?_⟩
  rw [member_eq (hbody.string t) hcolon]
  exact hvalue.takes hspace hends d t

/-! ### The members of an object -/

variable {d : Draft} {isFirst : Bool} {r t : List Char}

lemma members_close (h : skipSpace t = '\x7d' :: r) (fuel : Nat) :
    members d isFirst t (fuel + 1) = .ok (d, r) := by
  rw [members, h]
  rfl

/-- Where the reader stands before members: at the first of them, or at the comma before it. -/
def Before (isFirst : Bool) (t cs : List Char) : Prop :=
  if isFirst then t = cs else ∃ sp, Spaces sp ∧ t = sp ++ ',' :: cs

lemma members_quote (ht : Before isFirst t cs) (h : skipSpace cs = '"' :: r) (fuel : Nat) :
    members d isFirst t (fuel + 1) =
      (Settings.member d r).bind fun p => members p.1 false p.2 fuel := by
  cases isFirst with
  | true =>
    obtain rfl : t = cs := ht
    rw [members, h]
    rfl
  | false =>
    obtain ⟨sp, hsp, rfl⟩ : ∃ sp, Spaces sp ∧ t = sp ++ ',' :: cs := ht
    rw [members, skipSpace_of_spaces hsp (by decide)]
    simp [h]

/-- **All members** are read into the draft if it accepts them, and else the reader stops. -/
lemma MembersText.members {ms : List Member} (h : MembersText ms cs) {d : Draft} {isFirst : Bool}
    {fuel : Nat} (hfuel : ms.length < fuel) (ht : Before isFirst t (cs ++ '\x7d' :: r)) :
    (d.Accepts ms → Settings.members d isFirst t fuel = .ok (ms.foldl Draft.put d, r)) ∧
    (¬ d.Accepts ms → ∃ stop, Settings.members d isFirst t fuel = .error stop) := by
  induction h generalizing d isFirst t fuel with
  | @last m cs h =>
    obtain ⟨fuel, rfl⟩ : ∃ k, fuel = k + 2 := ⟨fuel - 2, by simp at hfuel; omega⟩
    obtain ⟨u, after, hafter, hstart, hmember⟩ := h.member (c := '\x7d') (by decide) r
    obtain ⟨htaken, hrefused⟩ := hmember d
    rw [members_quote ht hstart]
    refine ⟨fun ⟨hnot, _⟩ => ?_, fun hnot => ?_⟩
    · rw [htaken hnot]
      exact members_close (skipSpace_of_spaces hafter (by decide) r) fuel
    · obtain ⟨stop, hstop⟩ := hrefused (by
        by_contra hno
        exact hnot ⟨hno, trivial⟩)
      exact ⟨stop, by rw [hstop]; rfl⟩
  | @next m ms cs ds h _ ih =>
    obtain ⟨fuel, rfl⟩ : ∃ k, fuel = k + 1 := ⟨fuel - 1, by simp at hfuel; omega⟩
    rw [List.append_assoc] at ht
    obtain ⟨u, after, hafter, hstart, hmember⟩ := h.member (c := ',') (by decide)
      (ds ++ '\x7d' :: r)
    obtain ⟨htaken, hrefused⟩ := hmember d
    have hnext : Before false (after ++ ',' :: (ds ++ '\x7d' :: r)) (ds ++ '\x7d' :: r) :=
      ⟨after, hafter, rfl⟩
    have hfuel' : ms.length < fuel := by simpa using hfuel
    obtain ⟨hrest, hstopped⟩ := ih (d := d.put m) hfuel' hnext
    rw [List.cons_append] at ht
    rw [members_quote ht hstart]
    by_cases hno : d.Refuses m
    · obtain ⟨stop, hstop⟩ := hrefused hno
      refine ⟨fun haccepts => absurd hno haccepts.1, fun _ => ⟨stop, ?_⟩⟩
      rw [hstop]
      rfl
    · rw [htaken hno]
      exact ⟨fun haccepts => hrest haccepts.2,
        fun hnot => hstopped fun haccepts => hnot ⟨hno, haccepts⟩⟩

/-- Every member but the first has a comma before it. -/
lemma MembersText.length_le {ms : List Member} (h : MembersText ms cs) :
    ms.length ≤ cs.length + 1 := by
  induction h with
  | last => exact Nat.le_add_left ..
  | next _ _ ih =>
    simp only [List.length_cons, List.length_append]
    omega

/-! ### Whole texts -/

lemma ObjectText.congr {ms : List Member} (h : ObjectText ms cs) (heq : cs = ds) :
    ObjectText ms ds := heq ▸ h

lemma draft_of_members {before after : List Char} {d : Draft} (hbefore : Spaces before)
    (hafter : Spaces after) (h : Settings.members {} true r (r.length + 1) = .ok (d, after)) :
    draft (before ++ '\x7b' :: r) = .ok d := by
  have hend : skipSpace after = [] := by
    have h := skipSpace_append hafter []
    rwa [List.append_nil] at h
  rw [draft, skipSpace_of_spaces hbefore (by decide)]
  change (Settings.members {} true r (r.length + 1)).bind _ = _
  rw [h]
  simp only [Except.bind, hend]

/-- **Objects**: the draft of an object holds what its members set, if they are acceptable. -/
lemma ObjectText.draft {ms : List Member} (h : ObjectText ms cs) :
    (Acceptable ms → Settings.draft cs = .ok (ms.foldl Draft.put {})) ∧
    (¬ Acceptable ms → ∃ stop, Settings.draft cs = .error stop) := by
  cases h with
  | @empty before space after hbefore hspace hafter =>
    refine ⟨fun _ => draft_of_members hbefore hafter ?_, fun hnot => ?_⟩
    · exact members_close (skipSpace_of_spaces hspace (by decide) after) _
    · exact absurd ⟨by simp, by simp⟩ hnot
  | @members _ before cs after hbefore h hafter =>
    have hfuel : ms.length < (cs ++ '\x7d' :: after).length + 1 := by
      have := h.length_le
      simp only [List.length_append, List.length_cons]
      omega
    have haccepts : ({} : Draft).Accepts ms ↔ Acceptable ms := by
      rw [Draft.accepts_iff]
      exact and_iff_left fun f _ => by cases f <;> decide
    have hfirst : Before true (cs ++ '\x7d' :: after) (cs ++ '\x7d' :: after) := rfl
    obtain ⟨htaken, hstopped⟩ := h.members (d := {}) hfuel hfirst
    rw [haccepts] at htaken hstopped
    refine ⟨fun hok => draft_of_members hbefore hafter (htaken hok), fun hnot => ?_⟩
    obtain ⟨stop, hstop⟩ := hstopped hnot
    refine ⟨stop, ?_⟩
    rw [Settings.draft, skipSpace_of_spaces hbefore (by decide)]
    change (Settings.members {} true _ _).bind _ = _
    rw [hstop]
    rfl

lemma ofText_of_acceptable {ms : List Member} {text : String} (h : ObjectText ms text.toList)
    (hok : Acceptable ms) : ofText text = .ok (overridden ms) := by
  rw [ofText, parse, h.draft.1 hok]
  exact congrArg Except.ok (Draft.settings_foldl_put {} ms)

/-! ### The order of members -/

def Member.isKnown (m : Member) : Bool := m.field?.isSome

/-- Members that set different things can change places. -/
lemma Member.set_comm {m m' : Member}
    (h : ∀ f, m.field? = some f → ∀ f', m'.field? = some f' → f ≠ f') (s : Settings) :
    m'.set (m.set s) = m.set (m'.set s) := by
  cases m <;> cases m' <;> simp_all [Member.set, Member.field?]

lemma overridden_filter (ms : List Member) :
    overridden (ms.filter Member.isKnown) = overridden ms := by
  rw [overridden, overridden, List.foldl_filter]
  congr 1
  funext s m
  cases m <;> rfl

lemma acceptable_filter {ms : List Member} :
    Acceptable (ms.filter Member.isKnown) ↔ Acceptable ms := by
  have hfields : (ms.filter Member.isKnown).filterMap Member.field? = ms.filterMap Member.field? := by
    rw [List.filterMap_filter]
    congr 1
    funext m
    cases m <;> rfl
  have hcores : ∀ n, .fallbackCores n ∈ ms.filter Member.isKnown ↔ .fallbackCores n ∈ ms :=
    fun n => by simp [Member.isKnown, Member.field?]
  constructor
  · rintro ⟨h, hfits⟩
    exact ⟨hfields ▸ h, fun n hn => hfits n ((hcores n).2 hn)⟩
  · rintro ⟨h, hfits⟩
    exact ⟨hfields ▸ h, fun n hn => hfits n ((hcores n).1 hn)⟩

lemma acceptable_of_perm {ms ms' : List Member} (hperm : ms'.Perm ms) (h : Acceptable ms) :
    Acceptable ms' :=
  ⟨(hperm.filterMap _).nodup_iff.2 h.once, fun n hn => h.fits n (hperm.mem_iff.1 hn)⟩

lemma overridden_of_perm {ms ms' : List Member} (hperm : ms'.Perm ms) (h : Acceptable ms) :
    overridden ms' = overridden ms := by
  have hpairs : ms.Pairwise fun m m' => ∀ s : Settings, m'.set (m.set s) = m.set (m'.set s) :=
    (List.pairwise_filterMap.1 h.once).imp fun hne => Member.set_comm hne
  have hcomm : ∀ m ∈ ms, ∀ m' ∈ ms, ∀ s : Settings, m'.set (m.set s) = m.set (m'.set s) :=
    List.Pairwise.forall_of_forall_of_flip (fun _ _ _ => rfl) hpairs
      (hpairs.imp fun h s => (h s).symm)
  exact (hperm.symm.foldl_eq' hcomm default).symm

/-- **Settings from an object.** Whatever the layout and the spelling of its texts, an object whose
known members are there once each, with a number of cores in its range, is read as the default
settings with these members in their place; any other object with the same known members is read
alike, whatever the order of the members and whatever unknown ones are among them. With a known
member twice, or a number of cores out of its range, the object is at fault. -/
theorem ofText_object {ms : List Member} {text : String} (h : ObjectText ms text.toList) :
    (Acceptable ms → ofText text = .ok (overridden ms) ∧
      ∀ ms' text', ObjectText ms' text'.toList →
        (ms'.filter Member.isKnown).Perm (ms.filter Member.isKnown) →
          ofText text' = ofText text) ∧
    (¬ Acceptable ms → ∃ message, ofText text = .error (.config message)) := by
  refine ⟨fun hok => ⟨ofText_of_acceptable h hok, fun ms' text' h' hperm => ?_⟩, fun hnot => ?_⟩
  · have hknown := acceptable_filter.2 hok
    have hok' : Acceptable ms' := acceptable_filter.1 (acceptable_of_perm hperm hknown)
    rw [ofText_of_acceptable h hok, ofText_of_acceptable h' hok', ← overridden_filter ms',
      overridden_of_perm hperm hknown, overridden_filter]
  · obtain ⟨stop, hstop⟩ := h.draft.2 hnot
    exact ⟨stop.message text.toList, by rw [ofText, parse, hstop]; rfl⟩

/-- Two members with an unknown one around a known key, escapes and space, in either order; and one
of them twice. -/
theorem ofText_object_nested :
    let text := "\t\x7b\"x\" : [-1.5E+3, \x7b\"fallback_cores\":0\x7d] ,\n\"fallback_cores\":" ++
      "4294967295,\"library\\u005Fpath\": \"\\uD83D\\ude00\"\x7d\n"
    let text' := "\x7b\"library\\u005Fpath\": \"\\uD83D\\ude00\",\n\"fallback_cores\":4294967295\x7d"
    let twice := "\x7b\n\"fallback_cores\":4294967295,\n\"fallback_cores\":4294967295\x7d"
    ofText text = .ok ⟨Text.utf8 "😀", 4294967295, true⟩ ∧ ofText text' = ofText text ∧
      ∃ message, ofText twice = .error (.config message) := by
  intro text text' twice
  have hnone : Spaces [] := by decide
  have hblank : Spaces [' '] := by decide
  have hline : Spaces ['\n'] := by decide
  have htab : Spaces ['\t'] := by decide
  have hkey := stringText_render Field.fallbackCores.key.toList
  have hnumber := Formed.number <| .mk (.inr rfl) (wholeText_toDigits 1)
    (.present (Text.decimal_toDigits 5).toDigits)
    (.present (.inr rfl) (.inr (.inl rfl)) (Text.decimal_toDigits 3).toDigits)
  have hzero := Formed.number <| .mk (.inl rfl) (wholeText_toDigits 0) .absent .absent
  have hobject := Formed.bracketed <| .last <| .entry hzero (.mk hnone hkey hnone hnone) hnone
  have hlist := Formed.bracketed <| .next (.element hnone hnumber hnone) <|
    .last <| .element hblank hobject hnone
  have hunknown : ∀ f : Field, f.key ≠ "x" := fun f => by cases f <;> decide
  have hother : MemberText (.other "x" hunknown) _ :=
    .mk (.other hlist) (.mk hnone (stringText_render "x".toList) hblank hblank) hblank
  have hcores : MemberText (.fallbackCores 4294967295) _ :=
    .mk (.fallbackCores (wholeText_toDigits _)) (.mk hline hkey hnone hnone) hnone
  have hunderscore : HexUnit '_'.toNat ['0', '0', '5', 'F'] := ⟨rfl, 2, by decide⟩
  have hhigh : HexUnit 0xd83d ['D', '8', '3', 'D'] := ⟨rfl, 0, by decide⟩
  have hlow : HexUnit 0xde00 ['d', 'e', '0', '0'] := ⟨rfl, 0, by decide⟩
  have hpath : StringText Field.library.key.toList _ :=
    .mk <| (flatMap_escaped_spelled "library".toList).append <|
      .cons (.unit hunderscore) (flatMap_escaped_spelled "path".toList)
  have hface : StringText "😀".toList _ := .mk (.cons (.pair (by decide) hhigh hlow) .nil)
  have hlibrary : MemberText (.library "😀") _ :=
    .mk (.library hface) (.mk hnone hpath hnone hblank) hnone
  have h : ObjectText _ text.toList :=
    ObjectText.congr (.members htab (.next hother (.next hcores (.last hlibrary))) hline)
      (by decide +kernel)
  have h' : ObjectText _ text'.toList :=
    ObjectText.congr (.members hnone (.next hlibrary (.last hcores)) hnone) (by decide +kernel)
  have htwice : ObjectText _ twice.toList :=
    ObjectText.congr (.members hnone (.next hcores (.last hcores)) hnone) (by decide +kernel)
  have honce : [Field.fallbackCores, Field.library].Nodup := by decide
  obtain ⟨hok, hsame⟩ := (ofText_object h).1 ⟨honce, by simp⟩
  refine ⟨hok, hsame _ text' h' (.swap ..), (ofText_object htwice).2 ?_⟩
  rintro ⟨honce, -⟩
  exact absurd honce (by decide)

end Offload.Settings
