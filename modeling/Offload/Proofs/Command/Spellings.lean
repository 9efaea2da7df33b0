import Mathlib.Data.List.Forall2
import Offload.Proofs.Command.Arguments
import Offload.Proofs.Text.Integer

/-!
The texts of arguments, and that each is read back as the argument it was written for.

A value is written as its payload, a reference as its offset into the heap in either radix; a char
may also be written as the character that it is. None of these spellings has a blank in it, so that
blanks around it do not count.
-/

namespace Offload.Command

variable {heap : Region} {v : Value} {cs : List Char} {text : String}

/-! ### Spellings -/

/-- The address of the byte at an offset into a region. -/
structure At (heap : Region) (a : UInt64) (offset : Nat) : Prop where
  lt : offset < heap.size.toNat
  eq : a.toNat = heap.base.toNat + offset

/-- The ways to write a value that is no float and no double. -/
inductive Spelled (heap : Region) : Value → List Char → Prop
  | null : Spelled heap .null nullText
  | decimal {a : UInt64} {offset : Nat} (hat : At heap a offset) :
      Spelled heap (.object a) ('@' :: Nat.toDigits 10 offset)
  /-- The digits may be of either case. -/
  | hex {a : UInt64} {offset : Nat} {digits : List Char} (hat : At heap a offset)
      (hdigits : digits.map Char.toLower = Nat.toDigits 16 offset) :
      Spelled heap (.object a) ('@' :: '0' :: 'x' :: digits)
  | payload {v : Value} (hobject : v.kind ≠ .object) (hfloat : v.kind ≠ .float)
      (hdouble : v.kind ≠ .double) : Spelled heap v v.payload.toList
  /-- A digit alone is a number, and blanks do not count. -/
  | character {c : Char} (hdigit : c.isDigit = false) (hblank : Text.isBlank c = false)
      (hplane : c.toNat < UInt16.size) : Spelled heap (.char (UInt16.ofNat c.toNat)) [c]

/-- A text that is `cs` but for blanks around it. -/
def Padded (cs : List Char) (text : String) : Prop :=
  ∃ before after : List Char, (∀ c ∈ before, Text.isBlank c = true) ∧
    (∀ c ∈ after, Text.isBlank c = true) ∧ text.toList = before ++ (cs ++ after)

/-- A text that spells a value, with blanks around it. -/
def Writes (heap : Region) (v : Value) (text : String) : Prop :=
  ∃ cs, Spelled heap v cs ∧ Padded cs text

/-- A spelling of a value: a reference by its offset in decimal. -/
def spelling (heap : Region) : Value → List Char
  | .object a =>
    if a = 0 then nullText else '@' :: Nat.toDigits 10 (a.toNat - heap.base.toNat)
  | v => v.payload.toList

lemma padded_self (cs : List Char) : Padded cs (String.ofList cs) :=
  ⟨[], [], by simp, by simp, by simp⟩

lemma trim_of_padded (hcs : ∀ c ∈ cs, Text.isBlank c = false) (h : Padded cs text) :
    Text.trim text.toList = cs := by
  obtain ⟨before, after, hbefore, hafter, heq⟩ := h
  rw [heq, Text.trim_append hbefore hafter hcs]

/-- Every value has a spelling, but floats, doubles and references out of the heap. -/
lemma spelled_spelling (hv : v.Within heap) (hfloat : v.kind ≠ .float)
    (hdouble : v.kind ≠ .double) : Spelled heap v (spelling heap v) := by
  by_cases hobject : v.kind = .object
  · obtain ⟨a, rfl⟩ := Marshal.exists_object_of_kind hobject
    by_cases ha : a = 0
    · subst ha
      exact .null
    · obtain ⟨hbase, hstop⟩ := (hv a rfl).resolve_left ha
      rw [spelling, if_neg ha]
      exact .decimal ⟨by omega, by omega⟩
  · have hpayload : spelling heap v = v.payload.toList := by
      cases v <;> first | rfl | exact absurd rfl hobject
    rw [hpayload]
    exact .payload hobject hfloat hdouble

/-! ### Reading a spelling -/

lemma readOffset_toDigits {offset : Nat} (hlt : offset < UInt64.size) :
    readOffset (Nat.toDigits 10 offset) = .ok offset := by
  have hread : readUnsigned 10 UInt64.size (Nat.toDigits 10 offset) = .ok offset := by
    rw [readUnsigned, Text.readUnsigned_toDigits (by decide) (by decide) hlt]
    rfl
  unfold readOffset
  split
  · rename_i digits heq
    -- the mark of a hexadecimal number is no digit
    have hmem : 'x' ∈ Nat.toDigits 10 offset := by simp [heq]
    exact absurd (Nat.isDigit_of_mem_toDigits (by decide) (by decide) hmem) (by decide)
  · exact hread

lemma readOffset_hex {offset : Nat} {digits : List Char} (hlt : offset < UInt64.size)
    (h : digits.map Char.toLower = Nat.toDigits 16 offset) :
    readOffset ('0' :: 'x' :: digits) = .ok offset := by
  rw [readOffset, readUnsigned, Text.readUnsigned_of_map_toLower h hlt]
  rfl

lemma At.lt_size {a : UInt64} {offset : Nat} (h : At heap a offset) : offset < UInt64.size :=
  Nat.lt_trans h.lt heap.size.toNat_lt

lemma readObject_at {a : UInt64} {offset : Nat} (hat : At heap a offset)
    (h : readOffset cs = .ok offset) : readObject heap ('@' :: cs) = .ok (.object a) := by
  have haddr : heap.base + UInt64.ofNat offset = a := by
    rw [← UInt64.toNat_inj, UInt64.toNat_add, UInt64.toNat_ofNat_of_lt' hat.lt_size, ← hat.eq]
    exact Nat.mod_eq_of_lt a.toNat_lt
  have hlt := hat.lt
  rw [readObject, if_neg (by simp)]
  simp only [h, bind, Except.bind]
  rw [if_neg (by omega), haddr]

lemma readSigned_toString {size : Nat} {i : Int} (f : Int → Value) (hlow : -(size / 2 : Nat) ≤ i)
    (hhigh : i < (size / 2 : Nat)) :
    (readSigned size (toString i).toList).map f = .ok (f i) := by
  rw [readSigned, Text.readSigned_toString hlow hhigh]
  rfl

lemma readChar_toString (u : UInt16) : readChar (toString u.toNat).toList = .ok (.char u) := by
  have hlist : (toString u.toNat).toList = Nat.toDigits 10 u.toNat := by
    rw [Nat.toString_eq_repr, Nat.toList_repr]
  have hnumber : (readUnsigned 10 UInt16.size (toString u.toNat).toList).map
      (fun n => Value.char (UInt16.ofNat n)) = .ok (.char u) := by
    rw [hlist, readUnsigned, Text.readUnsigned_toDigits (by decide) (by decide) u.toNat_lt]
    exact congrArg (Except.ok ∘ Value.char) UInt16.ofNat_toNat
  unfold readChar
  split
  · rename_i c heq
    -- a digit alone counts as a number
    have hmem : c ∈ Nat.toDigits 10 u.toNat := by
      rw [← hlist, heq]
      exact List.mem_singleton_self c
    rw [if_pos (Nat.isDigit_of_mem_toDigits (by decide) (by decide) hmem)]
    exact hnumber
  · exact hnumber

lemma readChar_character {c : Char} (hdigit : c.isDigit = false) :
    readChar [c] =
      if c.toNat < UInt16.size then .ok (.char (UInt16.ofNat c.toNat))
      else .error .beyondPlane := by
  simp [readChar, hdigit]

lemma readTrimmed_payload (hobject : v.kind ≠ .object) (hfloat : v.kind ≠ .float)
    (hdouble : v.kind ≠ .double) : readTrimmed heap v.kind v.payload.toList = .ok v := by
  cases v with
  | object => exact absurd rfl hobject
  | boolean b => cases b <;> rfl
  | byte n =>
    have h : readTrimmed heap .byte (toString n.toInt).toList = .ok (.byte (Int8.ofInt n.toInt)) :=
      readSigned_toString _ n.le_toInt n.toInt_lt
    rwa [Int8.ofInt_toInt] at h
  | short n =>
    have h : readTrimmed heap .short (toString n.toInt).toList =
        .ok (.short (Int16.ofInt n.toInt)) := readSigned_toString _ n.le_toInt n.toInt_lt
    rwa [Int16.ofInt_toInt] at h
  | char u => exact readChar_toString u
  | int n =>
    have h : readTrimmed heap .int (toString n.toInt).toList = .ok (.int (Int32.ofInt n.toInt)) :=
      readSigned_toString _ n.le_toInt n.toInt_lt
    rwa [Int32.ofInt_toInt] at h
  | long n =>
    have h : readTrimmed heap .long (toString n.toInt).toList = .ok (.long (Int64.ofInt n.toInt)) :=
      readSigned_toString _ n.le_toInt n.toInt_lt
    rwa [Int64.ofInt_toInt] at h
  | float => exact absurd rfl hfloat
  | double => exact absurd rfl hdouble

lemma Spelled.readTrimmed (h : Spelled heap v cs) : readTrimmed heap v.kind cs = .ok v := by
  cases h with
  | null => rfl
  | decimal hat => exact readObject_at hat (readOffset_toDigits hat.lt_size)
  | hex hat hdigits => exact readObject_at hat (readOffset_hex hat.lt_size hdigits)
  | payload hobject hfloat hdouble => exact readTrimmed_payload hobject hfloat hdouble
  | character hdigit _ hplane => exact (readChar_character hdigit).trans (if_pos hplane)

lemma isBlank_payload (hobject : v.kind ≠ .object) (hfloat : v.kind ≠ .float)
    (hdouble : v.kind ≠ .double) : ∀ c ∈ v.payload.toList, Text.isBlank c = false := by
  cases v with
  | object => exact absurd rfl hobject
  | boolean b => cases b <;> simp [Value.payload, Text.isBlank]
  | byte n => exact Text.isBlank_toString n.toInt
  | short n => exact Text.isBlank_toString n.toInt
  | char u => exact Text.isBlank_toString (u.toNat : Int)
  | int n => exact Text.isBlank_toString n.toInt
  | long n => exact Text.isBlank_toString n.toInt
  | float => exact absurd rfl hfloat
  | double => exact absurd rfl hdouble

lemma Spelled.isBlank (h : Spelled heap v cs) : ∀ c ∈ cs, Text.isBlank c = false := by
  cases h with
  | null => simp [nullText, Text.isBlank]
  | decimal =>
    simpa using ⟨by decide, Text.isBlank_toDigits (by decide) (by decide) _⟩
  | hex hat hdigits =>
    have hread := Text.readUnsigned_of_map_toLower hdigits hat.lt_size
    simpa using ⟨by decide, by decide, by decide, Text.isBlank_of_readUnsigned hread⟩
  | payload hobject hfloat hdouble => exact isBlank_payload hobject hfloat hdouble
  | character _ hblank => simpa using hblank

/-- **One slot**: every text that writes a value is read as that value. -/
lemma Writes.readValue (h : Writes heap v text) : readValue heap v.kind text = .ok v := by
  obtain ⟨cs, hspelled, hpadded⟩ := h
  rw [Command.readValue, trim_of_padded hspelled.isBlank hpadded]
  exact hspelled.readTrimmed

/-- **A char slot**: a character that is no digit stands for its own code, as far as it has one. -/
lemma readValue_character {c : Char} (hdigit : c.isDigit = false)
    (hblank : Text.isBlank c = false) (h : Padded [c] text) :
    readValue heap .char text =
      if c.toNat < UInt16.size then .ok (.char (UInt16.ofNat c.toNat))
      else .error .beyondPlane := by
  rw [readValue, trim_of_padded (by simpa using hblank) h]
  exact readChar_character hdigit

/-- Beyond the plane there are no digits and no blanks. -/
lemma isDigit_isBlank_of_le {c : Char} (h : UInt16.size ≤ c.toNat) :
    c.isDigit = false ∧ Text.isBlank c = false := by
  simp only [UInt16.size] at h
  constructor
  · have hnine : ¬ c.toNat ≤ '9'.toNat := by simp only [Char.reduceToNat]; omega
    simp only [Char.isDigit, Bool.and_eq_false_iff, decide_eq_false_iff_not]
    exact .inr hnine
  · simp only [Text.isBlank, Bool.or_eq_false_iff, Bool.and_eq_false_iff, decide_eq_false_iff_not]
    omega

/-! ### All slots -/

variable {s : Signature} {args : List Value} {texts : List String}

lemma readSlots_eq_ok_iff {i : Nat} {kinds : List Kind} :
    readSlots heap i kinds texts = .ok args ↔
      List.Forall₂ (fun (x : Kind × String) v => readValue heap x.1 x.2 = .ok v)
        (kinds.zip texts) args := by
  induction kinds generalizing i texts args with
  | nil => simp [readSlots, eq_comm]
  | cons kind kinds ih =>
    cases texts with
    | nil => simp [readSlots, eq_comm]
    | cons text texts =>
      rw [readSlots, List.zip_cons_cons, List.forall₂_cons_left_iff]
      simp only [← ih (i := i + 1)]
      rcases readValue heap kind text with fault | v
      · simp
      · constructor
        · intro h
          obtain ⟨vs, hvs, rfl⟩ := exists_of_map_eq_ok h
          exact ⟨v, vs, rfl, hvs, rfl⟩
        · rintro ⟨v', vs, hv, hvs, rfl⟩
          obtain rfl := Except.ok.inj hv
          rw [hvs]
          rfl

/-- Texts are read as arguments one by one, a text for each slot. -/
lemma readArguments_eq_ok_iff :
    readArguments s heap texts = .ok args ↔ texts.length = s.arity ∧
      List.Forall₂ (fun (x : Kind × String) v => readValue heap x.1 x.2 = .ok v)
        (s.slots.zip texts) args := by
  rw [readArguments, ← readSlots_eq_ok_iff]
  split_ifs with h
  · simp [h]
  · rw [and_iff_right (not_not.1 h)]

lemma exists_of_readArguments {i : Nat} {kind : Kind} (h : readArguments s heap texts = .ok args)
    (hkind : s.slots[i]? = some kind) (htext : texts[i]? = some text) :
    ∃ v, readValue heap kind text = .ok v := by
  obtain ⟨-, hread⟩ := readArguments_eq_ok_iff.1 h
  have hzip : (s.slots.zip texts)[i]? = some (kind, text) :=
    List.getElem?_zip_eq_some.2 ⟨hkind, htext⟩
  obtain ⟨hi, heq⟩ := List.getElem?_eq_some_iff.1 hzip
  have hv := (List.forall₂_iff_get.1 hread).2 i hi (by rw [← hread.length_eq]; exact hi)
  rw [List.get_eq_getElem, heq] at hv
  exact ⟨_, hv⟩

lemma readArguments_of_writes (hkinds : args.map Value.kind = s.slots)
    (h : List.Forall₂ (Writes heap) args texts) : readArguments s heap texts = .ok args := by
  refine readArguments_eq_ok_iff.2 ⟨?_, ?_⟩
  · rw [← h.length_eq, ← Signature.length_slots, ← hkinds, List.length_map]
  · rw [← hkinds]
    clear hkinds
    induction h with
    | nil => exact .nil
    | cons hv _ ih => exact .cons hv.readValue ih

/-- **Arguments read back**: values of a signature's kinds, none of them a float or a double, can be
written whenever their references are null or lie in the heap, and every way to write them is read
as just these values. In a char slot a character of the first plane that is no digit and no blank
stands for its own code; one beyond that plane is refused, and with it all the arguments. -/
theorem readArguments_written (s : Signature) (heap : Region) :
    (∀ args : List Value, args.map Value.kind = s.slots →
      (∀ kind ∈ s.slots, kind ≠ .float ∧ kind ≠ .double) → (∀ v ∈ args, v.Within heap) →
      List.Forall₂ (Writes heap) args (args.map fun v => String.ofList (spelling heap v)) ∧
      ∀ texts, List.Forall₂ (Writes heap) args texts →
        readArguments s heap texts = .ok args) ∧
    ∀ (c : Char) (text : String), Padded [c] text →
      (c.isDigit = false → Text.isBlank c = false → c.toNat < UInt16.size →
        readValue heap .char text = .ok (.char (UInt16.ofNat c.toNat))) ∧
      (UInt16.size ≤ c.toNat → readValue heap .char text = .error .beyondPlane ∧
        ∀ (texts : List String) (i : Nat), s.slots[i]? = some .char → texts[i]? = some text →
          ∃ fault, readArguments s heap texts = .error fault) := by
  refine ⟨fun args hkinds hkind hwithin => ⟨?_, fun texts h => ?_⟩, fun c text hpad => ⟨?_, ?_⟩⟩
  · rw [List.forall₂_map_right_iff, List.forall₂_same]
    intro v hv
    obtain ⟨hfloat, hdouble⟩ := hkind v.kind (hkinds ▸ List.mem_map_of_mem hv)
    exact ⟨_, spelled_spelling (hwithin v hv) hfloat hdouble, padded_self _⟩
  · exact readArguments_of_writes hkinds h
  · intro hdigit hblank hplane
    rw [readValue_character hdigit hblank hpad, if_pos hplane]
  · intro hbeyond
    obtain ⟨hdigit, hblank⟩ := isDigit_isBlank_of_le hbeyond
    have hrefused : readValue heap .char text = .error .beyondPlane := by
      rw [readValue_character hdigit hblank hpad, if_neg (by omega)]
    refine ⟨hrefused, fun texts i hkind htext => ?_⟩
    rcases hread : readArguments s heap texts with fault | args
    · exact ⟨fault, rfl⟩
    · obtain ⟨v, hv⟩ := exists_of_readArguments hread hkind htext
      rw [hrefused] at hv
      cases hv

/-- Values at the limits of their kinds, the last byte of the heap in hexadecimal, a lone digit and
a lone sign for chars; and a character from beyond the plane in place of the sign. -/
theorem readArguments_written_limits :
    let s : Signature := ⟨[.byte, .char, .char, .object, .boolean, .long], true, none⟩
    let heap : Region := ⟨4096, 64⟩
    let texts (sign : String) : List String :=
      ["null", " -128\t", "7", sign, "@0x3F ", "true", "-9223372036854775808"]
    readArguments s heap (texts "-") =
        .ok [.null, .byte (-128), .char 7, .char 45, .object 4159, .boolean true,
          .long (-9223372036854775808)] ∧
      ∃ fault, readArguments s heap (texts (String.singleton (Char.ofNat 0x1d11e))) =
        .error fault := by
  intro s heap texts
  have hnull : Writes heap .null "null" := ⟨_, .null, padded_self _⟩
  have hbyte : Writes heap (.byte (-128)) " -128\t" :=
    ⟨_, .payload (by decide) (by decide) (by decide), [' '], ['\t'], by simp [Text.isBlank],
      by simp [Text.isBlank], rfl⟩
  have hdigit : Writes heap (.char 7) "7" :=
    ⟨_, .payload (by decide) (by decide) (by decide), padded_self _⟩
  have hsign : Writes heap (.char 45) "-" :=
    ⟨_, .character (c := '-') (by decide) (by decide) (by decide), padded_self _⟩
  have hlast : Writes heap (.object 4159) "@0x3F " :=
    ⟨['@', '0', 'x', '3', 'F'], .hex (⟨by decide, by decide⟩ : At heap 4159 63) (by decide),
      [], [' '], by simp, by simp [Text.isBlank], rfl⟩
  have htrue : Writes heap (.boolean true) "true" :=
    ⟨_, .payload (by decide) (by decide) (by decide), padded_self _⟩
  have hlong : Writes heap (.long (-9223372036854775808)) "-9223372036854775808" :=
    ⟨_, .payload (by decide) (by decide) (by decide), padded_self _⟩
  constructor
  · refine ((readArguments_written s heap).1 _ rfl (by decide) ?_).2 _ (.cons hnull (.cons hbyte
      (.cons hdigit (.cons hsign (.cons hlast (.cons htrue (.cons hlong .nil)))))))
    simp [Value.Within, Value.null, heap]
  · obtain ⟨-, hbeyond⟩ :=
      (readArguments_written s heap).2 (Char.ofNat 0x1d11e) _ (padded_self [Char.ofNat 0x1d11e])
    exact (hbeyond (by decide)).2 _ 3 rfl rfl

end Offload.Command
