import Offload.Command.Perform
import Offload.Proofs.Text.Integer

/-!
Which source decides: the command line before the variables of the environment, these before the
file that one of them names, and the file before the defaults.

What the file sets is told apart from what it leaves to the defaults. A fault of the file is found
before anything else is looked at; whether the number of cores will do is asked last, of the number
that has been chosen by then.
-/

namespace Offload

namespace Settings

/-! ### Numbers of cores -/

/-- The texts that spell a number of cores, with blanks around it. -/
inductive CoresText (n : Nat) : List Char → Prop
  | mk {before cs after : List Char} (hbefore : ∀ c ∈ before, Text.isBlank c = true)
      (h : Text.Unsigned n cs) (hfits : n < UInt32.size)
      (hafter : ∀ c ∈ after, Text.isBlank c = true) : CoresText n (before ++ (cs ++ after))

lemma coresText_iff {n : Nat} {cs : List Char} :
    CoresText n cs ↔ Text.readUnsigned 10 UInt32.size (Text.trim cs) = .ok n := by
  have hread : ∀ {ds}, Text.readUnsigned 10 UInt32.size ds = .ok n ↔
      Text.Unsigned n ds ∧ n < UInt32.size := Text.readUnsigned_eq_ok_iff (by decide)
  constructor
  · rintro ⟨hbefore, h, hfits, hafter⟩
    have hds := hread.2 ⟨h, hfits⟩
    rwa [Text.trim_append hbefore hafter (Text.isBlank_of_readUnsigned hds)]
  · intro h
    obtain ⟨hds, hfits⟩ := hread.1 h
    obtain ⟨before, after, hbefore, hafter, heq⟩ := Text.exists_blanks_trim cs
    rw [heq]
    exact .mk hbefore hds hfits hafter

/-- A text is read as a number of cores if it spells one, and is at fault if it spells none. -/
lemma coresOfText_eq {text : String} :
    (∀ n, CoresText n text.toList → coresOfText text = .ok (UInt32.ofNat n)) ∧
    ((∀ n, ¬ CoresText n text.toList) → coresOfText text =
      .error (.config (coresVariable ++ "=" ++ Text.quoted text ++ " is not a number"))) := by
  unfold coresOfText
  simp only [coresText_iff]
  rcases hread : Text.readUnsigned 10 UInt32.size (Text.trim text.toList) with e | n
  · simp
  · refine ⟨fun n' heq => ?_, fun hno => absurd rfl (hno n)⟩
    obtain rfl := Except.ok.inj heq
    rfl

/-! ### The file -/

variable {vars : Variables} {files : Files} {d : Draft} {e : Fault} {s : Settings}

/-- What the file of the environment sets; without a file, nothing. -/
inductive FileSets (vars : Variables) (files : Files) : Draft → Prop
  | absent (h : vars configVariable = none) : FileSets vars files {}
  | read {path text : String} {d : Draft} (h : vars configVariable = some path)
      (htext : files.readText path = .ok text) (hdraft : draft text.toList = .ok d) :
      FileSets vars files d

/-- How the file of the environment is at fault: it cannot be read as text, or the text does not
hold settings. -/
inductive FileFails (vars : Variables) (files : Files) : Fault → Prop
  | unread {path : String} {e : FileFault} (h : vars configVariable = some path)
      (htext : files.readText path = .error e) :
      FileFails vars files (.config (path ++ ": " ++ e.message))
  | unparsed {path text : String} {stop : Json.Stop} (h : vars configVariable = some path)
      (htext : files.readText path = .ok text) (hdraft : draft text.toList = .error stop) :
      FileFails vars files (.config (stop.message text.toList))

lemma sets_or_fails (vars : Variables) (files : Files) :
    (∃ d, FileSets vars files d) ∨ ∃ e, FileFails vars files e := by
  rcases hpath : vars configVariable with _ | path
  · exact .inl ⟨_, .absent hpath⟩
  rcases htext : files.readText path with e | text
  · exact .inr ⟨_, .unread hpath htext⟩
  rcases hdraft : draft text.toList with stop | d
  · exact .inr ⟨_, .unparsed hpath htext hdraft⟩
  · exact .inl ⟨d, .read hpath htext hdraft⟩

/-- The settings of the environment once its file has been read. -/
def overriding (vars : Variables) (base : Settings) : Except Fault Settings :=
  (overrideCores (vars coresVariable) (overrideLibrary (vars libraryVariable) base)).bind checked

lemma ofEnvironment_of_sets (h : FileSets vars files d) :
    ofEnvironment vars files = overriding vars d.settings := by
  unfold ofEnvironment
  cases h with
  | absent h =>
    rw [h]
    rfl
  | read h htext hdraft =>
    rw [h]
    simp only [ofFile, htext, ofText, parse, hdraft]
    rfl

lemma ofEnvironment_of_fails (h : FileFails vars files e) :
    ofEnvironment vars files = .error e := by
  unfold ofEnvironment
  cases h with
  | unread h htext =>
    rw [h]
    simp only [ofFile, htext]
    rfl
  | unparsed h htext hdraft =>
    rw [h]
    simp only [ofFile, htext, ofText, parse, hdraft]
    rfl

/-! ### The variables -/

/-- The number of cores that the sources come to: the variable's, or else what the file sets. -/
inductive Chosen (vars : Variables) (d : Draft) : UInt32 → Prop
  | given {text : String} {n : Nat} (h : vars coresVariable = some text)
      (htext : CoresText n text.toList) : Chosen vars d (UInt32.ofNat n)
  | left (h : vars coresVariable = none) :
      Chosen vars d (d.fallbackCores.getD default.fallbackCores)

/-- The settings that the sources come to, with the given number of cores. -/
def chosen (vars : Variables) (library : Option String) (d : Draft) (cores : UInt32) : Settings where
  library := (((library.or (vars libraryVariable)).map Text.utf8).or
    (d.library.map fun cs => Text.utf8 (String.ofList cs))).getD default.library
  fallbackCores := cores
  verifyObjects := d.verifyObjects.getD default.verifyObjects

lemma overrideLibrary_chosen (library : Option String) (cores : UInt32) :
    overrideLibrary library (chosen vars none d cores) = chosen vars library d cores := by
  cases library <;> simp [overrideLibrary, chosen]

lemma overrideLibrary_settings : overrideLibrary (vars libraryVariable) d.settings =
    chosen vars none d (d.fallbackCores.getD default.fallbackCores) := by
  cases h : vars libraryVariable <;> simp [overrideLibrary, chosen, Draft.settings, h]

lemma checked_chosen (library : Option String) (cores : UInt32) :
    checked (chosen vars library d cores) =
      if cores = 0 then .error (.config "fallback_cores must be at least 1")
      else .ok (chosen vars library d cores) := rfl

/-- A number of cores that has been chosen is all that is checked. -/
lemma overriding_of_chosen {cores : UInt32} (h : Chosen vars d cores) :
    overriding vars d.settings =
      if cores = 0 then .error (.config "fallback_cores must be at least 1")
      else .ok (chosen vars none d cores) := by
  rw [overriding, overrideLibrary_settings, ← checked_chosen]
  cases h with
  | given h htext =>
    rw [h, overrideCores, coresOfText_eq.1 _ htext]
    rfl
  | left h =>
    rw [h]
    rfl

lemma overriding_of_no_number {text : String} (h : vars coresVariable = some text)
    (hno : ∀ n, ¬ CoresText n text.toList) :
    overriding vars d.settings =
      .error (.config (coresVariable ++ "=" ++ Text.quoted text ++ " is not a number")) := by
  rw [overriding, h, overrideCores, coresOfText_eq.2 hno]
  rfl

lemma chosen_or_no_number (vars : Variables) (d : Draft) :
    (∃ cores, Chosen vars d cores) ∨
      ∃ text, vars coresVariable = some text ∧ ∀ n, ¬ CoresText n text.toList := by
  rcases h : vars coresVariable with _ | text
  · exact .inl ⟨_, .left h⟩
  by_cases hn : ∃ n, CoresText n text.toList
  · obtain ⟨n, hn⟩ := hn
    exact .inl ⟨_, .given h hn⟩
  · exact .inr ⟨text, rfl, fun n htext => hn ⟨n, htext⟩⟩

/-! ### The environment -/

/-- Why the environment has no settings. -/
inductive Rejected (vars : Variables) (files : Files) : Fault → Prop
  | file {e : Fault} (h : FileFails vars files e) : Rejected vars files e
  | notNumber {d : Draft} {text : String} (h : FileSets vars files d)
      (htext : vars coresVariable = some text) (hno : ∀ n, ¬ CoresText n text.toList) :
      Rejected vars files
        (.config (coresVariable ++ "=" ++ Text.quoted text ++ " is not a number"))
  | zero {d : Draft} (h : FileSets vars files d) (hzero : Chosen vars d 0) :
      Rejected vars files (.config "fallback_cores must be at least 1")

lemma ofEnvironment_of_chosen {cores : UInt32} (hd : FileSets vars files d)
    (hcores : Chosen vars d cores) (h : cores ≠ 0) :
    ofEnvironment vars files = .ok (chosen vars none d cores) := by
  rw [ofEnvironment_of_sets hd, overriding_of_chosen hcores, if_neg h]

lemma ofEnvironment_of_rejected (h : Rejected vars files e) :
    ofEnvironment vars files = .error e := by
  cases h with
  | file h => exact ofEnvironment_of_fails h
  | notNumber h htext hno => rw [ofEnvironment_of_sets h, overriding_of_no_number htext hno]
  | zero h hzero => rw [ofEnvironment_of_sets h, overriding_of_chosen hzero, if_pos rfl]

/-- The sources come to settings, unless they are rejected. -/
lemma chosen_or_rejected (vars : Variables) (files : Files) :
    (∃ d cores, FileSets vars files d ∧ Chosen vars d cores ∧ cores ≠ 0) ∨
      ∃ e, Rejected vars files e := by
  obtain ⟨d, hd⟩ | ⟨e, he⟩ := sets_or_fails vars files
  · obtain ⟨cores, hcores⟩ | ⟨text, htext, hno⟩ := chosen_or_no_number vars d
    · by_cases hzero : cores = 0
      · exact .inr ⟨_, .zero hd (hzero ▸ hcores)⟩
      · exact .inl ⟨d, cores, hd, hcores, hzero⟩
    · exact .inr ⟨_, .notNumber hd htext hno⟩
  · exact .inr ⟨e, .file he⟩

lemma ofEnvironment_eq_ok_iff : ofEnvironment vars files = .ok s ↔
    ∃ d cores, FileSets vars files d ∧ Chosen vars d cores ∧ cores ≠ 0 ∧
      s = chosen vars none d cores := by
  constructor
  · intro h
    obtain ⟨d, cores, hd, hcores, hzero⟩ | ⟨e, he⟩ := chosen_or_rejected vars files
    · rw [ofEnvironment_of_chosen hd hcores hzero] at h
      exact ⟨d, cores, hd, hcores, hzero, (Except.ok.inj h).symm⟩
    · cases h.symm.trans (ofEnvironment_of_rejected he)
  · rintro ⟨d, cores, hd, hcores, hzero, rfl⟩
    exact ofEnvironment_of_chosen hd hcores hzero

lemma ofEnvironment_eq_error_iff : ofEnvironment vars files = .error e ↔ Rejected vars files e := by
  refine ⟨fun h => ?_, ofEnvironment_of_rejected⟩
  obtain ⟨d, cores, hd, hcores, hzero⟩ | ⟨e', he'⟩ := chosen_or_rejected vars files
  · cases h.symm.trans (ofEnvironment_of_chosen hd hcores hzero)
  · obtain rfl := Except.error.inj (h.symm.trans (ofEnvironment_of_rejected he'))
    exact he'

/-! ### A number in the variable -/

lemma CoresText.ofNat_eq_zero_iff {n : Nat} {cs : List Char} (h : CoresText n cs) :
    UInt32.ofNat n = 0 ↔ n = 0 := by
  obtain ⟨-, -, hfits, -⟩ := h
  rw [← UInt32.toNat_inj, UInt32.toNat_ofNat_of_lt' hfits]
  rfl

/-- A number in the variable of the cores is the one that is chosen. -/
lemma Chosen.eq_of_given {text : String} {n : Nat} {cores : UInt32} (h : Chosen vars d cores)
    (hgiven : vars coresVariable = some text) (htext : CoresText n text.toList) :
    cores = UInt32.ofNat n := by
  cases h with
  | given h htext' =>
    obtain rfl := Option.some.inj (hgiven.symm.trans h)
    obtain rfl := Except.ok.inj ((coresText_iff.1 htext').symm.trans (coresText_iff.1 htext))
    rfl
  | left h => cases h.symm.trans hgiven

end Settings

namespace Command

open Settings

variable {env : Environment} {backend : Backend}

lemma effectiveSettings_iff_chosen {s : Settings} : effectiveSettings env backend = .ok s ↔
    ∃ d cores, FileSets env.vars env.files d ∧ Chosen env.vars d cores ∧ cores ≠ 0 ∧
      s = chosen env.vars backend.library d cores := by
  have hsettings : effectiveSettings env backend = .ok s ↔ ∃ s',
      ofEnvironment env.vars env.files = .ok s' ∧ s = overrideLibrary backend.library s' := by
    unfold effectiveSettings
    rcases ofEnvironment env.vars env.files with e | s' <;> simp [eq_comm]
  rw [hsettings]
  constructor
  · rintro ⟨s', hs', rfl⟩
    obtain ⟨d, cores, hd, hcores, hzero, rfl⟩ := ofEnvironment_eq_ok_iff.1 hs'
    exact ⟨d, cores, hd, hcores, hzero, overrideLibrary_chosen _ cores⟩
  · rintro ⟨d, cores, hd, hcores, hzero, rfl⟩
    exact ⟨_, ofEnvironment_of_chosen hd hcores hzero, (overrideLibrary_chosen _ cores).symm⟩

lemma effectiveSettings_iff_rejected {failure : Failure} :
    effectiveSettings env backend = .error failure ↔
      ∃ e, Rejected env.vars env.files e ∧
        failure = ["reading okra configuration", e.message] := by
  simp only [← ofEnvironment_eq_error_iff]
  unfold effectiveSettings
  rcases ofEnvironment env.vars env.files with e | s' <;> simp [eq_comm]

/-- **Precedence.** A command works with settings whose library is the command line's, or else the
variable's, or else the file's, or else the default one, and whose number of cores is the
variable's, or else the file's, or else the default one; only the file says whether references are
checked. There are none for exactly the reasons that reject an environment: the file cannot be read
or holds no settings, which is reported whatever the other sources are; or the variable of the cores
spells no number; or the number of cores that was chosen is zero. So with a number in the variable
it is this number that decides, and not the file's; and a library on the command line mends
nothing. -/
theorem effectiveSettings_precedence (env : Environment) (backend : Backend) :
    (∀ s, effectiveSettings env backend = .ok s ↔
      ∃ d cores, FileSets env.vars env.files d ∧ Chosen env.vars d cores ∧ cores ≠ 0 ∧
        s = chosen env.vars backend.library d cores) ∧
    (∀ failure, effectiveSettings env backend = .error failure ↔
      ∃ e, Rejected env.vars env.files e ∧ failure = ["reading okra configuration", e.message]) ∧
    (∀ e, FileFails env.vars env.files e →
      effectiveSettings env backend = .error ["reading okra configuration", e.message]) ∧
    (∀ d text n, FileSets env.vars env.files d → env.vars coresVariable = some text →
      CoresText n text.toList → ((∃ s, effectiveSettings env backend = .ok s) ↔ n ≠ 0)) ∧
    ∀ library failure, effectiveSettings env { backend with library } = .error failure ↔
      effectiveSettings env backend = .error failure := by
  refine ⟨fun s => effectiveSettings_iff_chosen, fun failure => effectiveSettings_iff_rejected,
    fun e he => effectiveSettings_iff_rejected.2 ⟨e, .file he, rfl⟩,
    fun d text n hd hgiven htext => ?_, fun library failure =>
      effectiveSettings_iff_rejected.trans effectiveSettings_iff_rejected.symm⟩
  refine Iff.trans ?_ (not_congr htext.ofNat_eq_zero_iff)
  constructor
  · rintro ⟨s, hs⟩
    obtain ⟨d', cores, -, hcores, hzero, -⟩ := effectiveSettings_iff_chosen.1 hs
    rwa [hcores.eq_of_given hgiven htext] at hzero
  · intro hzero
    exact ⟨_, effectiveSettings_iff_chosen.2 ⟨d, _, hd, .given hgiven htext, hzero, rfl⟩⟩

/-- A file without cores is rescued by a number in the variable, and one with cores is not rescued
from none in it. -/
theorem effectiveSettings_precedence_rescued :
    let env (cores file : String) : Environment := {
      vars := fun name =>
        if name = configVariable then some "c.json"
        else if name = coresVariable then some cores else none
      files := fun path => if path = "c.json" then .ok (Text.utf8 file) else .error .notFound
      loads := fun _ => false
      allocate := fun _ => none }
    let backend : Backend := ⟨false, some "lib.so", none⟩
    effectiveSettings (env "\t+08 " "\x7b\"fallback_cores\":0,\"verify_object_refs\":false\x7d") backend =
      .ok ⟨Text.utf8 "lib.so", 8, false⟩ ∧
    effectiveSettings (env "0" "\x7b\"fallback_cores\":4\x7d") backend =
      .error ["reading okra configuration",
        (Fault.config "fallback_cores must be at least 1").message] := by
  intro env backend
  have hread : ∀ cores file d, draft file.toList = .ok d →
      FileSets (env cores file).vars (env cores file).files d := by
    intro cores file d hd
    have hpath : (env cores file).vars configVariable = some "c.json" := by simp [env]
    have htext : (env cores file).files.readText "c.json" = .ok file := by
      simp [env, Files.readText, bind, Except.bind, Text.ofUtf8?_utf8]
    exact .read hpath htext hd
  have hvariable : ∀ cores file, (env cores file).vars coresVariable = some cores := by
    simp [env, coresVariable, configVariable]
  have height : CoresText 8 "\t+08 ".toList := coresText_iff.2 (by decide +kernel)
  have hzero : CoresText 0 "0".toList := coresText_iff.2 (by decide +kernel)
  have hrescued : draft "\x7b\"fallback_cores\":0,\"verify_object_refs\":false\x7d".toList =
      .ok ⟨none, some 0, some false⟩ := by decide +kernel
  have hfour : draft "\x7b\"fallback_cores\":4\x7d".toList = .ok ⟨none, some 4, none⟩ := by
    decide +kernel
  constructor
  · exact ((effectiveSettings_precedence _ backend).1 _).2
      ⟨_, 8, hread _ _ _ hrescued, .given (hvariable _ _) height, by decide, rfl⟩
  · exact ((effectiveSettings_precedence _ backend).2.1 _).2
      ⟨_, .zero (hread _ _ _ hfour) (.given (hvariable _ _) hzero), rfl⟩

end Command

end Offload
