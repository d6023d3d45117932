import CrateHeader.Header
import CrateHeader.Proofs.Table
import CrateHeader.Settings.Reader

/-!
# What settings can be given

A document of settings is refused, or it is read, or reading stops at a value that is gone through and has no
members. Not every value is checked on the way: some are taken over as they stand, and those that become lines of a
header are not looked at before it is written. `Settings.Reads` follows what has to hold of the unchecked values through
the readers, one key at a time; `Settings.read_answers` says what becomes of every document.
-/

namespace CrateHeader

namespace Document

/-! ### Documents by their keys -/

/-- The entries of a mapping; a document of another kind has none. -/
def entries : Document → List (Document × Document)
  | mapping entries => entries
  | _ => []

/-- The value under a key, null where there is none. -/
def under (d : Document) (key : String) : Document := valueAt d.entries key

/-- The texts of the members of a list; a document of another kind lists none. -/
def listed : Document → List String
  | list items => items.map asText
  | _ => []

def IsTextOrNull (d : Document) : Prop := d = null ∨ ∃ s, d = text s

/-- A mapping, or an empty value of any kind. -/
def IsMappingIfAny (d : Document) : Prop := d.truthy = true → d.isMapping = true

/-- A list, or an empty value of any kind. -/
def IsListIfAny (d : Document) : Prop := d.truthy = true → ∃ items, d = list items

/-- Null, or a value that has members. -/
def HasMembersIfAny (d : Document) : Prop := d = null ∨ ∃ items, d.members = .ok items

/-- The values that become whole lines of a header. -/
def wholeLines (d : Document) : List Document :=
  [d.under "header", d.under "autogen_warning", d.under "trailer", (d.under "function").under "deprecated",
    (d.under "function").under "deprecated_with_note"]

/-- The values that are taken over as they stand, and ought to be texts. -/
def givenTexts (d : Document) : List Document :=
  d.wholeLines ++ [d.under "include_guard", (d.under "function").under "no_return"]

/-- The values that are gone through unchecked can be gone through. -/
structure HasCollections (d : Document) : Prop where
  flags : ((d.under "cfg").under "flags").IsMappingIfAny
  features : ((d.under "cfg").under "features").HasMembersIfAny
  values : ((d.under "cfg").under "values").IsMappingIfAny
  renamed : ((d.under "export").under "rename").IsMappingIfAny

/-- The values that are taken over are texts, and the features stand in a list. -/
structure HasTexts (d : Document) : Prop where
  texts : ∀ value ∈ d.givenTexts, value.IsTextOrNull
  features : ((d.under "cfg").under "features").IsListIfAny

end Document

namespace Settings

/-! ### Readers that answer for a condition -/

/-- What a reader does that answers for a condition: it refuses, or it misuses a value and the condition does not hold,
or the condition holds and what it reads is right. -/
inductive Reads {α : Type} (p : Prop) (right : α → Prop) : Except SettingsFailure α → Prop where
  | refused (e : SettingsError) : Reads p right (.error (.refused e))
  | misused (m : Misuse) : ¬ p → Reads p right (.error (.misuse m))
  | read (a : α) : p → right a → Reads p right (.ok a)

namespace Reads

variable {α β : Type} {p p' : Prop} {right : α → Prop} {right' : β → Prop} {x : Except SettingsFailure α}
  {f : α → Except SettingsFailure β}

theorem congr (h : Reads p right x) (hp : p ↔ p') {right' : α → Prop} (hright : ∀ a, right a → right' a) :
    Reads p' right' x := by
  cases h with
  | refused e => exact .refused e
  | misused m hnot => exact .misused m fun h => hnot (hp.2 h)
  | read a h ha => exact .read a (hp.1 h) (hright a ha)

/-- A reader behind another answers for its condition too. -/
theorem bind (h : Reads p right x) (hf : ∀ a, right a → Reads p' right' (f a)) :
    Reads (p ∧ p') right' (x >>= f) := by
  cases h with
  | refused e => exact .refused e
  | misused m hnot => exact .misused m fun h => hnot h.1
  | read a hp ha => exact (hf a ha).congr (by simp [hp]) fun _ => id

/-- A reader that checks its value answers for no condition. -/
theorem checked (h : Reads True right x) (hf : ∀ a, right a → Reads p' right' (f a)) :
    Reads p' right' (x >>= f) :=
  (h.bind hf).congr (iff_of_eq (true_and p')) fun _ => id

theorem ok {a : α} (h : right a) : Reads True right (.ok a) := .read a trivial h

end Reads

/-! ### The keys one by one -/

section Keys

variable (d : Document)

theorem reads_section (key : String) : Reads True (· = (d.under key).entries) (sectionAt d.entries key) := by
  unfold sectionAt
  rw [show Document.valueAt d.entries key = d.under key from rfl]
  generalize d.under key = value
  dsimp only
  cases value with
  | mapping inner =>
    cases inner with
    | nil => exact .ok rfl
    | cons entry rest => exact .ok rfl
  | _ =>
    split
    · exact .refused _
    · exact .ok rfl

theorem reads_texts (entries : Entries) (key : String) (absent : List String) :
    Reads True (fun _ => True) (textsAt entries key absent) := by
  unfold textsAt
  split
  · exact .ok trivial
  · exact .ok trivial
  · exact .refused _

theorem reads_positive (value : Document) (key : String) : Reads True (fun _ => True) (positive value key) := by
  unfold positive
  split
  · split
    · exact .ok trivial
    · exact .refused _
  · exact .refused _

theorem reads_rule (entries : Entries) (inSection key : String) :
    Reads True (fun _ => True) (ruleAt entries inSection key) := by
  unfold ruleAt rule
  split
  · exact .ok trivial
  · exact .refused _

theorem reads_language (entries : Entries) : Reads True (fun _ => True) (readLanguage entries) := by
  unfold readLanguage
  dsimp only
  split
  · exact .ok trivial
  · exact .refused _

theorem reads_style (entries : Entries) : Reads True (fun _ => True) (readStyle entries) := by
  unfold readStyle
  split
  · exact .ok trivial
  · exact .ok trivial
  · exact .refused _

theorem reads_keyed {α : Type} (f : Document → α) (key : String) :
    Reads (d.under key).IsMappingIfAny (fun _ => True) (keyedAt f d.entries key) := by
  unfold keyedAt
  change Reads _ _ (((d.under key).entriesIfAny.map (textKeyed f)).mapError .misuse)
  unfold Document.entriesIfAny Document.IsMappingIfAny
  by_cases htruthy : (d.under key).truthy = true
  · rw [if_pos htruthy]
    cases hd : d.under key with
    | mapping inner => exact .read _ (fun _ => rfl) trivial
    | _ => exact .misused _ fun h => nomatch h (hd ▸ htruthy)
  · rw [if_neg htruthy]
    exact .read _ (fun h => absurd h htruthy) trivial

end Keys

/-- The features that a value stands for. -/
def featuresOf : Document → Except SettingsFailure (Option (List String))
  | .null => .ok none
  | value => (value.members.map fun items => some (items.map Document.asText)).mapError .misuse

theorem reads_features (value : Document) :
    Reads value.HasMembersIfAny (fun features => featuresOf value = .ok features) (featuresOf value) := by
  have hmembers : value ≠ .null → value.HasMembersIfAny → ∃ items, value.members = .ok items :=
    fun hvalue h => h.resolve_left hvalue
  cases value with
  | null => exact .read _ (.inl rfl) rfl
  | list items => exact .read _ (.inr ⟨_, rfl⟩) rfl
  | text s => exact .read _ (.inr ⟨_, rfl⟩) rfl
  | mapping entries => exact .read _ (.inr ⟨_, rfl⟩) rfl
  | _ => exact .misused _ fun h => nomatch hmembers (by simp) h

/-! ### Sections -/

theorem readCfg_eq (entries : Entries) : readCfg entries = (do
    let flags ← keyedAt Document.truthy entries "flags"
    let features ← featuresOf (Document.valueAt entries "features")
    let values ← keyedAt asTexts entries "values"
    .ok ⟨flags, features, values⟩) := by
  unfold readCfg
  cases Document.valueAt entries "features" <;> rfl

theorem reads_cfg (d : Document) : Reads ((d.under "flags").IsMappingIfAny ∧ (d.under "features").HasMembersIfAny ∧
      (d.under "values").IsMappingIfAny) (fun cfg => featuresOf (d.under "features") = .ok cfg.features)
    (readCfg d.entries) := by
  rw [readCfg_eq]
  refine (reads_keyed d _ "flags").bind fun flags _ => ?_
  refine (reads_features (d.under "features")).bind fun features hfeatures => ?_
  refine ((reads_keyed d _ "values").bind fun values _ => Reads.ok ?_).congr (and_iff_left trivial) fun _ h => h
  exact hfeatures

theorem reads_surface (d : Document) :
    Reads (d.under "rename").IsMappingIfAny (fun _ => True) (readSurface d.entries) := by
  unfold readSurface
  dsimp only
  refine (reads_texts _ _ _).checked fun included _ => ?_
  refine (reads_texts _ _ _).checked fun excluded _ => ?_
  refine Reads.congr ?_ (and_iff_left trivial) fun _ h => h
  refine (reads_keyed d _ "rename").bind fun renamed _ => ?_
  refine (reads_texts _ _ _).checked fun opaqueMarks _ => ?_
  exact (reads_texts _ _ _).checked fun external _ => .ok trivial

theorem reads_function (d : Document) : Reads True (fun f => f.deprecated = d.under "deprecated" ∧
      f.deprecatedWithNote = d.under "deprecated_with_note" ∧ f.noReturn = d.under "no_return")
    (readFunction d.entries) := by
  unfold readFunction
  exact (reads_rule _ _ _).checked fun renameArgs _ => .ok ⟨rfl, rfl, rfl⟩

/-! ### Whole documents -/

/-- The settings that become whole lines of a header. -/
def wholeLines (s : Settings) : List Document :=
  [s.header, s.autogenWarning, s.trailer, s.function.deprecated, s.function.deprecatedWithNote]

/-- The settings that are taken over as they stand. -/
def givenTexts (s : Settings) : List Document := s.wholeLines ++ [s.includeGuard, s.function.noReturn]

/-- What settings have from a document: all that is taken over as it stands, and the features. -/
structure ComesFrom (s : Settings) (d : Document) : Prop where
  lines : s.wholeLines = d.wholeLines
  texts : s.givenTexts = d.givenTexts
  features : featuresOf ((d.under "cfg").under "features") = .ok s.cfg.features

theorem hasCollections_iff (d : Document) : d.HasCollections ↔
    (((d.under "cfg").under "flags").IsMappingIfAny ∧ ((d.under "cfg").under "features").HasMembersIfAny ∧
      ((d.under "cfg").under "values").IsMappingIfAny) ∧ ((d.under "export").under "rename").IsMappingIfAny :=
  ⟨fun ⟨flags, features, values, renamed⟩ => ⟨⟨flags, features, values⟩, renamed⟩,
    fun ⟨⟨flags, features, values⟩, renamed⟩ => ⟨flags, features, values, renamed⟩⟩

/-- Only the keys that are gone through unchecked leave anything to answer for. -/
theorem reads_read (d : Document) : Reads d.HasCollections (·.ComesFrom d) (read d) := by
  cases d with
  | mapping entries =>
    refine Reads.congr ?_ (hasCollections_iff (.mapping entries)).symm fun _ h => h
    unfold read
    refine (reads_language entries).checked fun language _ => ?_
    refine (reads_style entries).checked fun commentStyle _ => ?_
    refine (reads_texts entries _ _).checked fun sysIncludes _ => ?_
    refine (reads_texts entries _ _).checked fun includes _ => ?_
    refine (reads_positive _ _).checked fun workers _ => ?_
    refine (reads_section (.mapping entries) "cfg").checked fun _ hcfg => ?_
    subst hcfg
    refine (reads_cfg _).bind fun cfg hfeatures => ?_
    refine (reads_section (.mapping entries) "export").checked fun _ hsurface => ?_
    subst hsurface
    refine Reads.congr ((reads_surface _).bind fun surface _ => ?_) (and_iff_left trivial) fun _ h => h
    refine (reads_section (.mapping entries) "function").checked fun _ hfunction => ?_
    subst hfunction
    refine (reads_function _).checked fun function hfunction => ?_
    obtain ⟨hdeprecated, hnote, hreturn⟩ := hfunction
    refine (reads_section (.mapping entries) "structure").checked fun structures _ => ?_
    refine (reads_rule structures _ _).checked fun renameFields _ => ?_
    refine (reads_section (.mapping entries) "enumeration").checked fun enums _ => ?_
    refine (reads_rule enums _ _).checked fun renameVariants _ => ?_
    refine (reads_section (.mapping entries) "specialization").checked fun special _ => ?_
    refine (reads_positive _ _).checked fun maxDepth _ => .ok ⟨?_, ?_, hfeatures⟩
    · rw [wholeLines, hdeprecated, hnote]
      rfl
    · rw [givenTexts, wholeLines, hdeprecated, hnote, hreturn]
      rfl
  | _ => exact .refused _

/-! ### What is made of a document -/

variable {s : Settings} {d : Document}

/-- Every setting has its kind, and the features are none or those that the document lists. -/
structure IsTyped (s : Settings) (d : Document) : Prop where
  texts : ∀ value ∈ s.givenTexts, value.IsTextOrNull
  features : (d.under "cfg").under "features" = .null ∧ s.cfg.features = none ∨
    s.cfg.features = some ((d.under "cfg").under "features").listed

theorem isListIfAny_iff {value : Document} {features : Option (List String)} (h : featuresOf value = .ok features) :
    (value = .null ∧ features = none ∨ features = some value.listed) ↔ value.IsListIfAny := by
  cases value with
  | null =>
    cases h
    exact ⟨fun _ htruthy => (nomatch htruthy), fun _ => .inl ⟨rfl, rfl⟩⟩
  | list items =>
    cases h
    exact ⟨fun _ _ => ⟨items, rfl⟩, fun _ => .inr rfl⟩
  | text s =>
    cases h
    simp [Document.IsListIfAny, Document.truthy, Document.listed]
  | mapping entries =>
    cases h
    simp [Document.IsListIfAny, Document.truthy, Document.listed]
  | _ => cases h

theorem ComesFrom.isTyped_iff (h : s.ComesFrom d) : s.IsTyped d ↔ d.HasTexts := by
  constructor
  · rintro ⟨htexts, hfeatures⟩
    exact ⟨h.texts ▸ htexts, (isListIfAny_iff h.features).1 hfeatures⟩
  · rintro ⟨htexts, hfeatures⟩
    exact ⟨h.texts ▸ htexts, (isListIfAny_iff h.features).2 hfeatures⟩

end Settings

/-! ### Writing headers -/

theorem Document.IsTextOrNull.isFit {value : Document} (h : value.IsTextOrNull) : Header.isUnfit value = false := by
  rcases h with rfl | ⟨s, rfl⟩
  · rfl
  · simp [Header.isUnfit]

namespace Header

variable {settings : Settings}

theorem exists_write_iff (s : Stream) : (∃ text, write settings s = .ok text) ↔ misuse? settings s = none := by
  unfold write
  cases misuse? settings s <;> simp

theorem misuse?_eq_none_iff (s : Stream) : misuse? settings s = none ↔
    isUnfit settings.header = false ∧ isUnfit settings.autogenWarning = false ∧ isUnfit settings.trailer = false ∧
    (isUnfit settings.function.deprecated && usesPlainMark settings.function s) = false ∧
    (isUnfit settings.function.deprecatedWithNote && usesNote settings.function s) = false := by
  unfold misuse?
  dsimp only
  split
  · next hunfit =>
    simp only [Bool.or_eq_true] at hunfit
    simp only [reduceCtorEq, false_iff]
    rintro ⟨hheader, hwarning, htrailer, -, hnote⟩
    simp [hheader, hwarning, htrailer, hnote] at hunfit
  · next hfit =>
    simp only [Bool.or_eq_true, not_or, Bool.not_eq_true] at hfit
    split <;> simp_all

/-- A stream with a deprecated function. -/
def deprecating (note : String) : Stream :=
  let halt := { Entity.bare "halt" 0 (.function [] .void false) with annotations := [.deprecated note] }
  ⟨⟨[halt], [], []⟩, [⟨.declareFunction, halt⟩]⟩

theorem notes_deprecating (note : String) : notes (deprecating note) = [note] := rfl

/-- Headers of all streams can be written exactly if no line of them is given as another value than a text: a deprecated
function with a note and one without it make use of both marks. -/
theorem write_iff :
    (∀ s, ∃ text, write settings s = .ok text) ↔ ∀ value ∈ settings.wholeLines, isUnfit value = false := by
  simp only [exists_write_iff, misuse?_eq_none_iff, Settings.wholeLines, List.forall_mem_cons]
  constructor
  · intro h
    obtain ⟨hheader, hwarning, htrailer, hplain, -⟩ := h (deprecating "")
    obtain ⟨-, -, -, -, hnote⟩ := h (deprecating "since 2")
    have hdeprecated : isUnfit settings.function.deprecated = false := by
      simpa [usesPlainMark, notes_deprecating] using hplain
    have hwithNote : isUnfit settings.function.deprecatedWithNote = false := by
      cases htruthy : settings.function.deprecatedWithNote.truthy with
      | false => simp [isUnfit, htruthy]
      | true => simpa [usesNote, notes_deprecating, htruthy] using hnote
    exact ⟨hheader, hwarning, htrailer, hdeprecated, hwithNote, by simp⟩
  · rintro ⟨hheader, hwarning, htrailer, hdeprecated, hnote, -⟩ s
    simp [hheader, hwarning, htrailer, hdeprecated, hnote]

end Header

namespace Settings

/-- What reading a document promises: it is refused, or every setting has its kind and no header fails for them. -/
def Answers (d : Document) : Except SettingsFailure Settings → Prop
  | .ok s => s.IsTyped d ∧ ∀ stream, ∃ text, Header.write s stream = .ok text
  | .error (.refused _) => True
  | .error _ => False

variable {s : Settings} {d : Document}

theorem IsTyped.write (h : s.IsTyped d) (stream : Stream) : ∃ text, Header.write s stream = .ok text := by
  refine Header.write_iff.2 (fun value hvalue => ?_) stream
  exact (h.texts value (List.mem_append_left _ hvalue)).isFit

/-- A document that is not refused is answered as promised exactly if it has collections and texts where they are not
asked for. Without the collections nothing is read; without the texts the settings are read as they stand, and then
headers can be written of all streams exactly if those texts are there that become lines of them. -/
theorem read_answers (d : Document) :
    (Answers d (read d) ↔ (∃ e, read d = .error (.refused e)) ∨ d.HasCollections ∧ d.HasTexts) ∧
    ((∃ e, read d = .error (.refused e)) ∨
      (¬ d.HasCollections ∧ ∃ m, read d = .error (.misuse m)) ∨
      (d.HasCollections ∧ ∃ s, read d = .ok s ∧ (s.IsTyped d ↔ d.HasTexts) ∧
        ((∀ stream, ∃ text, Header.write s stream = .ok text) ↔
          ∀ value ∈ d.wholeLines, Header.isUnfit value = false))) := by
  have hreads := reads_read d
  generalize read d = x at hreads
  cases hreads with
  | refused e => exact ⟨iff_of_true trivial (.inl ⟨e, rfl⟩), .inl ⟨e, rfl⟩⟩
  | misused m hnot =>
    refine ⟨iff_of_false id ?_, .inr (.inl ⟨hnot, m, rfl⟩)⟩
    rintro (⟨_, ⟨⟩⟩ | ⟨hcollections, -⟩)
    exact hnot hcollections
  | read s hcollections hfrom =>
    refine ⟨?_, .inr (.inr ⟨hcollections, s, rfl, hfrom.isTyped_iff, hfrom.lines ▸ Header.write_iff⟩)⟩
    constructor
    · rintro ⟨htyped, -⟩
      exact .inr ⟨hcollections, hfrom.isTyped_iff.1 htyped⟩
    · rintro (⟨_, ⟨⟩⟩ | ⟨-, htexts⟩)
      have htyped := hfrom.isTyped_iff.2 htexts
      exact ⟨htyped, htyped.write⟩

/-- Settings with flags in a list. -/
def flagList : Document :=
  .mapping [(.text "cfg", .mapping [(.text "flags", .list [.text "unix"])])]

/-- Settings with a number for a header and a text for features. -/
def numberAndText : Document :=
  .mapping [(.text "header", .int 5), (.text "cfg", .mapping [(.text "features", .text "std")])]

/-- What is read from them. -/
def numberAndLetters : Settings :=
  { Settings.default with header := .int 5, cfg := ⟨[], some ["s", "t", "d"], []⟩ }

/-- A list of flags is neither refused nor read. A number is read as it stands, and then it stops the writer; a text
is read as the list of its letters. -/
theorem not_read_answers :
    (read flagList = .error (.misuse .wrongOperation) ∧ ¬ Answers flagList (read flagList)) ∧
    (read numberAndText = .ok numberAndLetters ∧
      (∀ stream, Header.write numberAndLetters stream = .error .wrongOperation) ∧
      ¬ Answers numberAndText (read numberAndText)) := by
  have hlist : read flagList = .error (.misuse .wrongOperation) := rfl
  have hnumber : read numberAndText = .ok numberAndLetters := rfl
  refine ⟨⟨hlist, ?_⟩, hnumber, fun _ => rfl, ?_⟩
  · rw [hlist]
    exact id
  · rw [hnumber]
    rintro ⟨htyped, -⟩
    obtain hnone | ⟨_, htext⟩ := htyped.texts (.int 5) List.mem_cons_self
    · cases hnone
    · cases htext

end Settings

end CrateHeader
