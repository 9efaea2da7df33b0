import Offload.Proofs.Settings.Members
import Offload.Settings.Writer

/-!
Settings read back: the text written for settings is read as the same settings.

What is written is an object with every member once, each on a line of its own, and an object is
read as what its members set.
-/

namespace Offload

/-- Bytes that are a text are the bytes of that text. -/
lemma Text.utf8_of_ofUtf8? {bytes : List UInt8} {text : String} (h : ofUtf8? bytes = some text) :
    utf8 text = bytes := by
  unfold ofUtf8? String.fromUTF8? at h
  split at h
  · have htext : text.toByteArray = bytes.toByteArray := by
      rw [← Option.some.inj h]
      rfl
    have hencoded : (utf8 text).toByteArray = text.toByteArray := by
      rw [← String.utf8Encode_toList]
      rfl
    exact List.toByteArray_inj.1 (hencoded.trans htext)
  · simp at h

namespace Settings

open Json

/-! ### Written members -/

lemma Member.key_of_field? {m : Member} {f : Field} (h : m.field? = some f) : m.key = f.key := by
  cases m with
  | other => cases h
  | library | fallbackCores | verifyObjects =>
    obtain rfl := Option.some.inj h
    rfl

/-- A member is written on a line of its own. -/
lemma memberText_render {m : Member} {f : Field} {value after : List Char}
    (hf : m.field? = some f) (hvalue : MemberValue m value) (hafter : Spaces after) :
    MemberText m ('\n' :: renderMember f value ++ after) := by
  have hbefore : Spaces ['\n', ' ', ' '] := by decide
  have hnone : Spaces [] := by decide
  have hblank : Spaces [' '] := by decide
  have hentry : EntryText m.key.toList value ('\n' :: renderMember f value) := by
    have h : EntryText m.key.toList value _ :=
      .mk hbefore (stringText_render m.key.toList) hnone hblank
    simpa [renderMember, Member.key_of_field? hf] using h
  exact .mk hvalue hentry hafter

/-- What is written for settings is an object with all their members. -/
lemma objectText_renderAll (path : String) (s : Settings) :
    ObjectText [.library path, .fallbackCores s.fallbackCores.toNat,
      .verifyObjects s.verifyObjects] (renderAll path.toList s) := by
  have hnone : Spaces [] := by decide
  have hline : Spaces ['\n'] := by decide
  have hlibrary : MemberText (.library path) _ :=
    memberText_render rfl (.library (stringText_render path.toList)) hnone
  have hcores : MemberText (.fallbackCores s.fallbackCores.toNat) _ :=
    memberText_render rfl (.fallbackCores (wholeText_toDigits _)) hnone
  have hflag : MemberText (.verifyObjects s.verifyObjects) _ :=
    memberText_render rfl (.verifyObjects _) hline
  have h := ObjectText.members hnone (.next hlibrary (.next hcores (.last hflag))) hnone
  simpa [renderAll] using h

/-! ### Settings -/

lemma ofText_renderAll {s : Settings} {path : String} (h : Text.ofUtf8? s.library = some path) :
    ofText (String.ofList (renderAll path.toList s)) = .ok s := by
  have hobject := objectText_renderAll path s
  rw [← String.toList_ofList (l := renderAll path.toList s)] at hobject
  rw [ofText_of_acceptable hobject ⟨by simp [Member.field?], ?_⟩]
  · simp [overridden, Member.set, Text.utf8_of_ofUtf8? h]
  · intro n hn
    obtain rfl : n = s.fallbackCores.toNat := by simpa using hn
    exact s.fallbackCores.toNat_lt

/-- A file alone decides the settings, but for the number of cores, which may not be zero. -/
lemma ofEnvironment_of_file {vars : Variables} {files : Files} {file text : String} {s : Settings}
    (hfile : vars configVariable = some file) (hlibrary : vars libraryVariable = none)
    (hcores : vars coresVariable = none) (hbytes : files file = .ok (Text.utf8 text))
    (htext : ofText text = .ok s) : ofEnvironment vars files = checked s := by
  have hread : ofFile files file = .ok s := by
    simp only [ofFile, Files.readText, bind, Except.bind, hbytes, Text.ofUtf8?_utf8, htext]
  unfold ofEnvironment
  simp only [hfile, hread, hlibrary, hcores, overrideLibrary, overrideCores, bind, Except.bind]

/-- **Settings read back**: settings whose library path is text can be written, and what is written
is read as the same settings. So a file that holds it, with no variable overriding it, gives them
back, unless they report no cores. -/
theorem ofText_render (s : Settings) (h : (Text.ofUtf8? s.library).isSome = true) :
    ∃ text, s.render = .ok text ∧ ofText text = .ok s ∧
      ∀ (vars : Variables) (files : Files) (file : String),
        vars configVariable = some file → vars libraryVariable = none →
        vars coresVariable = none → files file = .ok (Text.utf8 text) →
        ofEnvironment vars files =
          if s.fallbackCores = 0 then .error (.config "fallback_cores must be at least 1")
          else .ok s := by
  obtain ⟨path, hpath⟩ := Option.isSome_iff_exists.1 h
  have htext := ofText_renderAll hpath
  refine ⟨String.ofList (renderAll path.toList s), by rw [render, hpath], htext, ?_⟩
  intro vars files file hfile hlibrary hcores hbytes
  exact ofEnvironment_of_file hfile hlibrary hcores hbytes htext

/-- A path with every kind of character that is escaped, and one beyond the sixteen bit plane. -/
theorem ofText_render_escaped :
    let s : Settings := ⟨Text.utf8 "q\"b\\n\n\x00\x1f/é😀", 4294967295, false⟩
    let text := "\x7b\n  \"library_path\": \"q\\\"b\\\\n\\n\\u0000\\u001f/é😀\",\n" ++
      "  \"fallback_cores\": 4294967295,\n  \"verify_object_refs\": false\n\x7d"
    s.render = .ok text ∧ ofText text = .ok s ∧
      ofEnvironment (fun name => if name = configVariable then some "c.json" else none)
        (fun path => if path = "c.json" then .ok (Text.utf8 text) else .error .notFound) =
          .ok s := by
  intro s text
  obtain ⟨text', hrender, hread, henv⟩ := ofText_render s (by simp [s])
  have hwritten : s.render = .ok text := by
    rw [render, Text.ofUtf8?_utf8]
    decide +kernel
  obtain rfl : text' = text := Except.ok.inj (hrender.symm.trans hwritten)
  refine ⟨hrender, hread, ?_⟩
  have hvalid := henv (fun name => if name = configVariable then some "c.json" else none)
    (fun path => if path = "c.json" then .ok (Text.utf8 text) else .error .notFound) "c.json"
    (if_pos rfl) (if_neg (by decide)) (if_neg (by decide)) (if_pos rfl)
  exact hvalid.trans (if_neg (by decide))

end Settings

end Offload
