import Mathlib
import FBXRenderer.Lib.LastSplit
import FBXRenderer.Container.FixedStringRuns

/-!
# FBXRenderer.Importer.FileName

The narrow `ExtractFileNameFromFilePath` (`SSFBXImporter.cpp`), byte for byte. Arithmetic on the
null pointer of `strrchr` does not return, and neither does the copy of a component that is too long
for the string it is copied into.

* `SplitsAt`: a conversion of paths under which the component that is chosen is the converted one.
* `fileNameOf`: the part behind the last separator of either kind, less its extension.
* `Extractable`: there is a separator, and the part behind the last `/`, or behind the last
  backslash if there is no `/`, fits with its extension, has a dot, and holds no backslash, other
  than in front of a second copy of its own stem.
* `extractFileName_iff`: the function gives `fileNameOf` exactly for these paths.
-/

namespace FBXRenderer

open SS NulText LastSplit

section Search

variable {α : Type} [DecidableEq α]

/-- Whether a character is the given one. -/
def isChar (c x : α) : Bool := decide (x = c)

/-- `strrchr` and `wcsrchr`: the place of the last `c`. -/
def strrchr (text : List α) (c : α) : Option Nat :=
  (splitLast (isChar c) text).map fun parts => parts.1.length

variable {c : α} {text pre post : List α}

theorem isChar_self : isChar c c = true := decide_eq_true rfl

theorem forall_isChar_iff : (∀ x ∈ text, isChar c x = false) ↔ c ∉ text := by
  constructor
  · intro h hc
    exact absurd (h c hc) (by rw [isChar_self]; exact Bool.noConfusion)
  · rintro h x hx
    exact decide_eq_false fun hxc => h (hxc ▸ hx)

theorem strrchr_eq (h : c ∉ post) : strrchr (pre ++ c :: post) c = some pre.length := by
  rw [strrchr, splitLast_eq isChar_self (forall_isChar_iff.mpr h)]
  rfl

theorem strrchr_none (h : c ∉ text) : strrchr text c = none := by
  rw [strrchr, splitLast_none (forall_isChar_iff.mpr h)]
  rfl

/-- A text with a `c` in it splits at the last one. -/
theorem exists_last (h : c ∈ text) : ∃ pre post, text = pre ++ c :: post ∧ c ∉ post := by
  obtain ⟨pre, x, post, rfl, hx, hpost⟩ := exists_split ⟨c, h, isChar_self⟩
  obtain rfl : x = c := of_decide_eq_true hx
  exact ⟨pre, post, rfl, forall_isChar_iff.mp hpost⟩

/-- The last `c` has one place. -/
theorem last_unique {pre' post' : List α} (h : c ∉ post) (h' : c ∉ post')
    (heq : pre ++ c :: post = pre' ++ c :: post') : pre = pre' ∧ post = post' := by
  have hsplit : splitLast (isChar c) (pre ++ c :: post) = some (pre, post) :=
    splitLast_eq isChar_self (forall_isChar_iff.mpr h)
  rw [heq, splitLast_eq isChar_self (forall_isChar_iff.mpr h')] at hsplit
  cases hsplit
  exact ⟨rfl, rfl⟩

theorem behind_last (h : c ∉ post) : behind (isChar c) (pre ++ c :: post) = post :=
  behind_eq isChar_self (forall_isChar_iff.mpr h)

theorem before_last (h : c ∉ post) : before (isChar c) (pre ++ c :: post) = pre :=
  before_eq isChar_self (forall_isChar_iff.mpr h)

end Search

section Component

variable {α : Type} [Zero α] {c c' : α} {text : NulStr α} {component : List α}

/-- The text from the given character on. -/
def SS.NulStr.drop (s : NulStr α) (n : Nat) : NulStr α :=
  ⟨s.chars.drop n, fun h => s.no_nul (List.mem_of_mem_drop h)⟩

theorem drop_chars {pre post : List α} (h : text.chars = pre ++ c :: post) :
    (text.drop (pre.length + 1)).chars = post := by
  show text.chars.drop (pre.length + 1) = post
  rw [h, List.append_cons, List.drop_left' (by simp)]

variable [DecidableEq α]

/-- What is behind the last `c`, or behind the last `c'` of a text without a `c`. -/
def chosenBehind (c c' : α) (text : List α) : Option (List α) :=
  if c ∈ text then some (behind (isChar c) text)
  else if c' ∈ text then some (behind (isChar c') text)
  else none

/-- What the two searches of a path find. -/
theorem search_some (h : chosenBehind c c' text.chars = some component) :
    ∃ i, (strrchr text.chars c).or (strrchr text.chars c') = some i ∧
      (text.drop (i + 1)).chars = component := by
  rw [chosenBehind] at h
  split at h
  case isTrue hc =>
    obtain ⟨pre, post, htext, hpost⟩ := exists_last hc
    rw [htext, behind_last hpost] at h
    refine ⟨pre.length, ?_, (drop_chars htext).trans (Option.some.inj h)⟩
    rw [htext, strrchr_eq hpost]
    rfl
  case isFalse hc =>
    split at h
    case isTrue hc' =>
      obtain ⟨pre, post, htext, hpost⟩ := exists_last hc'
      rw [htext, behind_last hpost] at h
      refine ⟨pre.length, ?_, (drop_chars htext).trans (Option.some.inj h)⟩
      rw [strrchr_none hc, htext, strrchr_eq hpost]
      rfl
    case isFalse => cases h

theorem search_none (h : chosenBehind c c' text.chars = none) :
    (strrchr text.chars c).or (strrchr text.chars c') = none := by
  rw [chosenBehind] at h
  split at h
  case isTrue => cases h
  case isFalse hc =>
    split at h
    case isTrue => cases h
    case isFalse hc' =>
      rw [strrchr_none hc, strrchr_none hc']
      rfl

end Component

section Convert

variable {α β : Type} [DecidableEq α] [DecidableEq β] {f : List α → List β} {c c' : α} {d d' : β}
  {t : List α}

/-- A conversion of texts that goes piece by piece at `c`, and gives `d` for nothing else. -/
structure SplitsAt {α β : Type} (f : List α → List β) (c : α) (d : β) : Prop where
  mem_iff : ∀ t, d ∈ f t ↔ c ∈ t
  split : ∀ pre post, f (pre ++ c :: post) = f pre ++ d :: f post

theorem SplitsAt.behind (h : SplitsAt f c d) (hc : c ∈ t) :
    behind (isChar d) (f t) = f (behind (isChar c) t) := by
  obtain ⟨pre, post, rfl, hpost⟩ := exists_last hc
  have hpost' : d ∉ f post := fun hmem => hpost ((h.mem_iff post).mp hmem)
  rw [h.split, behind_last hpost', behind_last hpost]

/-- The component is chosen before or after the conversion. -/
theorem SplitsAt.chosenBehind (h : SplitsAt f c d) (h' : SplitsAt f c' d') :
    chosenBehind d d' (f t) = (chosenBehind c c' t).map f := by
  unfold FBXRenderer.chosenBehind
  by_cases hc : c ∈ t
  · rw [if_pos hc, if_pos ((h.mem_iff t).mpr hc), h.behind hc]
    rfl
  · rw [if_neg hc, if_neg fun hd => hc ((h.mem_iff t).mp hd)]
    by_cases hc' : c' ∈ t
    · rw [if_pos hc', if_pos ((h'.mem_iff t).mpr hc'), h'.behind hc']
      rfl
    · rw [if_neg hc', if_neg fun hd => hc' ((h'.mem_iff t).mp hd)]
      rfl

end Convert

section Name

open FixedString

def slash : UInt8 := '/'.toUInt8
def backslash : UInt8 := '\\'.toUInt8
def dot : UInt8 := '.'.toUInt8

variable {raw : FixedString UInt8 ASSET_NAME_LEN_MAX} {data : NulStr UInt8} {name ext : List UInt8}

/-- The end of both functions: `OutFileName = data`, then `CutOut` at the last dot, with its
assertion. The string that `OutFileName` is assigned from is built in the memory `raw`. -/
def assignAndCutOut (raw : FixedString UInt8 ASSET_NAME_LEN_MAX) (data : NulStr UInt8) :
    Option (FixedString UInt8 ASSET_NAME_LEN_MAX) := do
  let OutFileName ← construct raw data
  let cutOutLen ← strrchr (textOf OutFileName.dataPool) dot
  if cutOutLen < OutFileName.len then OutFileName.cutOut cutOutLen else none

/-- A component with a dot that fits is cut at its last dot. -/
theorem assignAndCutOut_some (raw : FixedString UInt8 ASSET_NAME_LEN_MAX)
    (hdata : data.chars = name ++ dot :: ext) (hext : dot ∉ ext)
    (hfit : data.chars.length < ASSET_NAME_LEN_MAX) :
    ∃ out, assignAndCutOut raw data = some out ∧ out.Tracks name := by
  obtain ⟨s, hcopy, htracks⟩ := construct_some (by decide) raw hfit
  rw [hdata] at htracks
  have hlt : name.length < s.len := by
    rw [htracks.len_eq, List.length_append, List.length_cons]
    omega
  obtain ⟨out, hcut, hreads⟩ := follows_cutOut htracks hlt
  rw [htracks.holds.textOf_eq, dictated, List.take_left] at hreads
  have hdot : strrchr (textOf s.dataPool) dot = some name.length := by
    rw [htracks.holds.textOf_eq]
    exact strrchr_eq hext
  refine ⟨out, ?_, reads_iff.mp hreads⟩
  refine Option.bind_eq_some_iff.mpr ⟨s, hcopy, Option.bind_eq_some_iff.mpr ⟨_, hdot, ?_⟩⟩
  rw [if_pos hlt]
  exact hcut

theorem assignAndCutOut_none (h : data.chars.length < ASSET_NAME_LEN_MAX → dot ∉ data.chars) :
    assignAndCutOut raw data = none := by
  rcases Nat.lt_or_ge data.chars.length ASSET_NAME_LEN_MAX with hfit | hfit
  · obtain ⟨s, hcopy, htracks⟩ := construct_some (by decide) raw hfit
    have hnone : strrchr (textOf s.dataPool) dot = none := by
      rw [htracks.holds.textOf_eq]
      exact strrchr_none (h hfit)
    rw [assignAndCutOut, hcopy]
    show (strrchr (textOf s.dataPool) dot).bind _ = none
    rw [hnone]
    rfl
  · rw [assignAndCutOut, construct, strcpy_none ((Nat.zero_add _).symm ▸ hfit)]
    rfl

end Name

namespace Narrow

open FixedString

def extractFileNameFromFilePath (raw : FixedString UInt8 ASSET_NAME_LEN_MAX)
    (InFilePath : NulStr UInt8) : Option (FixedString UInt8 ASSET_NAME_LEN_MAX) := do
  let fileNameStart ← (strrchr InFilePath.chars slash).or (strrchr InFilePath.chars backslash)
  assignAndCutOut raw (InFilePath.drop (fileNameStart + 1))

/-- Either kind. -/
def isSeparator (c : UInt8) : Bool := isChar slash c || isChar backslash c

/-- The part of a path behind its last separator. -/
def lastComponent (path : List UInt8) : List UInt8 := behind isSeparator path

/-- A component without its last extension. -/
def stem (component : List UInt8) : List UInt8 := before (isChar dot) component

def fileNameOf (path : List UInt8) : List UInt8 := stem (lastComponent path)

/-- The component that the function looks at: a backslash counts only in a path without a `/`. -/
def chosenComponent (path : List UInt8) : Option (List UInt8) := chosenBehind slash backslash path

/-- The dot that is found stands in front of the last component, and what precedes it is the last
component over again: `name.d\name`. -/
def RepeatsStem (component : List UInt8) : Prop :=
  ∃ name ext, component = name ++ dot :: (ext ++ backslash :: name) ∧ dot ∉ ext ∧ dot ∉ name ∧
    backslash ∉ name

def Extractable (path : List UInt8) : Prop :=
  ∃ component, chosenComponent path = some component ∧
    component.length < ASSET_NAME_LEN_MAX ∧ dot ∈ component ∧
    (backslash ∉ component ∨ RepeatsStem component)

section Spec

variable {raw : FixedString UInt8 ASSET_NAME_LEN_MAX} {path : NulStr UInt8}
  {component name ext : List UInt8}

theorem isSeparator_slash : isSeparator slash = true := rfl

theorem isSeparator_backslash : isSeparator backslash = true := rfl

theorem forall_isSeparator_iff {text : List UInt8} :
    (∀ c ∈ text, isSeparator c = false) ↔ slash ∉ text ∧ backslash ∉ text := by
  rw [← forall_isChar_iff, ← forall_isChar_iff, ← forall₂_and]
  exact forall₂_congr fun c _ => Bool.or_eq_false_iff

theorem extract_some (raw : FixedString UInt8 ASSET_NAME_LEN_MAX)
    (hchosen : chosenComponent path.chars = some (name ++ dot :: ext))
    (hfit : (name ++ dot :: ext).length < ASSET_NAME_LEN_MAX) (hext : dot ∉ ext) :
    ∃ out, extractFileNameFromFilePath raw path = some out ∧ out.Tracks name := by
  obtain ⟨i, hstart, hcomponent⟩ := search_some hchosen
  obtain ⟨out, hname, htracks⟩ := assignAndCutOut_some raw hcomponent hext
    (hcomponent ▸ hfit)
  refine ⟨out, ?_, htracks⟩
  rw [extractFileNameFromFilePath, hstart]
  exact hname

theorem extract_none (h : ∀ component, chosenComponent path.chars = some component →
      component.length < ASSET_NAME_LEN_MAX → dot ∉ component) :
    extractFileNameFromFilePath raw path = none := by
  cases hchosen : chosenComponent path.chars with
  | none =>
    rw [extractFileNameFromFilePath, search_none hchosen]
    rfl
  | some component =>
    obtain ⟨i, hstart, hcomponent⟩ := search_some hchosen
    rw [extractFileNameFromFilePath, hstart]
    refine assignAndCutOut_none ?_
    rw [hcomponent]
    exact h component hchosen

/-- Behind a separator that no `/` follows, the last component is what no backslash precedes. -/
theorem behind_isSeparator {pre post : List UInt8} {c : UInt8} (hc : isSeparator c = true)
    (hpost : slash ∉ post) :
    behind isSeparator (pre ++ c :: post) = behind (isChar backslash) post := by
  by_cases hback : backslash ∈ post
  · obtain ⟨dir, name, rfl, hname⟩ := exists_last hback
    have hslash : slash ∉ name := fun h =>
      hpost (List.mem_append_right _ (List.mem_cons_of_mem _ h))
    have hpath : pre ++ c :: (dir ++ backslash :: name)
        = (pre ++ c :: dir) ++ backslash :: name := by
      simp
    rw [behind_last hname, hpath,
      behind_eq isSeparator_backslash (forall_isSeparator_iff.mpr ⟨hslash, hname⟩)]
  · rw [behind_self (forall_isChar_iff.mpr hback),
      behind_eq hc (forall_isSeparator_iff.mpr ⟨hpost, hback⟩)]

/-- What the function should have looked at: the part of its component behind a backslash. -/
theorem lastComponent_eq {path : List UInt8} (h : chosenComponent path = some component) :
    lastComponent path = behind (isChar backslash) component := by
  rw [chosenComponent, chosenBehind] at h
  split at h
  case isTrue hslash =>
    obtain ⟨pre, post, rfl, hpost⟩ := exists_last hslash
    rw [behind_last hpost] at h
    cases h
    exact behind_isSeparator isSeparator_slash hpost
  case isFalse hslash =>
    split at h
    case isTrue hback =>
      obtain ⟨pre, post, rfl, hpost⟩ := exists_last hback
      rw [behind_last hpost] at h
      cases h
      refine behind_isSeparator isSeparator_backslash fun hmem => hslash ?_
      exact List.mem_append_right _ (List.mem_cons_of_mem _ hmem)
    case isFalse hback => cases h

/-- By cases on which stands further back in a component with both, the dot or the backslash. -/
theorem stem_behind_backslash_iff {dir last : List UInt8} (hext : dot ∉ ext)
    (hlast : backslash ∉ last) (heq : name ++ dot :: ext = dir ++ backslash :: last) :
    stem last = name ↔ RepeatsStem (name ++ dot :: ext) := by
  constructor
  · intro hstem
    rcases List.append_eq_append_iff.mp heq with ⟨w, hdir, hrest⟩ | ⟨w, hname, hrest⟩
    · cases w with
      | nil => cases hrest
      | cons x w =>
        rw [List.cons_append, List.cons.injEq] at hrest
        obtain ⟨rfl, rfl⟩ := hrest
        have hdot : dot ∉ last := fun h => hext (List.mem_append_right _ (List.mem_cons_of_mem _ h))
        have hname : last = name := (before_self (forall_isChar_iff.mpr hdot)).symm.trans hstem
        subst hname
        exact ⟨last, w, rfl, fun h => hext (List.mem_append_left _ h), hdot, hlast⟩
    · cases w with
      | nil => cases hrest
      | cons x w =>
        rw [List.cons_append, List.cons.injEq] at hrest
        obtain ⟨rfl, rfl⟩ := hrest
        rw [stem, before_last hext] at hstem
        have hlen := congrArg List.length hname
        rw [hstem, List.length_append, List.length_cons] at hlen
        omega
  · rintro ⟨name', ext', heq', hext', hdot, hback⟩
    have htail : dot ∉ ext' ++ backslash :: name' := by
      rw [List.mem_append, List.mem_cons]
      rintro (h | h | h)
      · exact hext' h
      · exact absurd h (by decide)
      · exact hdot h
    obtain ⟨rfl, rfl⟩ := last_unique hext htail heq'
    have hdir : dir ++ backslash :: last = (name ++ dot :: ext') ++ backslash :: name := by
      rw [← heq, List.append_assoc, List.cons_append]
    obtain ⟨_, rfl⟩ := last_unique hlast hback hdir
    exact before_self (forall_isChar_iff.mpr hdot)

/-- Whatever the separators and dots of a path: the function returns with its name exactly for an
extractable path. -/
theorem extractFileName_iff (raw : FixedString UInt8 ASSET_NAME_LEN_MAX) (path : NulStr UInt8) :
    (∃ out, extractFileNameFromFilePath raw path = some out ∧ out.Reads (fileNameOf path.chars)) ↔
      Extractable path.chars := by
  constructor
  · rintro ⟨out, hextract, hreads⟩
    have hsome : ∃ component, chosenComponent path.chars = some component ∧
        component.length < ASSET_NAME_LEN_MAX ∧ dot ∈ component := by
      by_contra hno
      rw [extract_none] at hextract
      · cases hextract
      · exact fun component h1 h2 h3 => hno ⟨component, h1, h2, h3⟩
    obtain ⟨component, hchosen, hfit, hdot⟩ := hsome
    refine ⟨component, hchosen, hfit, hdot, ?_⟩
    obtain ⟨name, ext, rfl, hext⟩ := exists_last hdot
    obtain ⟨out', hextract', htracks⟩ := extract_some raw hchosen hfit hext
    cases Option.some.inj (hextract.symm.trans hextract')
    have heq : fileNameOf path.chars = name := by
      rw [← hreads.text_eq]
      exact htracks.holds.textOf_eq
    rw [fileNameOf, lastComponent_eq hchosen] at heq
    by_cases hback : backslash ∈ name ++ dot :: ext
    · obtain ⟨dir, last, hsplit, hlast⟩ := exists_last hback
      rw [hsplit, behind_last hlast] at heq
      exact Or.inr ((stem_behind_backslash_iff hext hlast hsplit).mp heq)
    · exact Or.inl hback
  · rintro ⟨component, hchosen, hfit, hdot, hback⟩
    obtain ⟨name, ext, rfl, hext⟩ := exists_last hdot
    obtain ⟨out, hextract, htracks⟩ := extract_some raw hchosen hfit hext
    refine ⟨out, hextract, reads_iff.mpr ?_⟩
    have heq : fileNameOf path.chars = name := by
      rw [fileNameOf, lastComponent_eq hchosen]
      by_cases hmem : backslash ∈ name ++ dot :: ext
      · obtain ⟨dir, last, hsplit, hlast⟩ := exists_last hmem
        rw [hsplit, behind_last hlast]
        exact (stem_behind_backslash_iff hext hlast hsplit).mpr (hback.resolve_left (absurd hmem))
      · rw [behind_self (forall_isChar_iff.mpr hmem)]
        exact before_last hext
    rw [heq]
    exact htracks

end Spec

/-- `street.fbx`, in the working directory. -/
def streetPath : NulStr UInt8 :=
  ⟨[115, 116, 114, 101, 101, 116, 46, 102, 98, 120], by decide⟩

/-- The name is `street`, and the function adds 1 to the null pointer. -/
theorem no_separator_not_extracted :
    fileNameOf streetPath.chars = [115, 116, 114, 101, 101, 116] ∧
      ¬ ∃ out, extractFileNameFromFilePath (blank UInt8 ASSET_NAME_LEN_MAX) streetPath = some out ∧
        out.Reads (fileNameOf streetPath.chars) := by
  refine ⟨by decide, ?_⟩
  rintro ⟨out, hextract, _⟩
  have hnone : (strrchr streetPath.chars slash).or (strrchr streetPath.chars backslash) = none := by
    decide
  rw [extractFileNameFromFilePath, hnone] at hextract
  cases hextract

end Narrow
end FBXRenderer
