import Mathlib
import FBXRenderer.Lib.Utf
import FBXRenderer.Importer.FileName

/-!
# FBXRenderer.Importer.FileNameWide

The wide `ExtractFileNameFromFilePath` (`SSRenderer.cpp`), and the two ways from the path of the FBX
file to the name of its model combination: `SSRenderer::BeginFrame` takes the name from the UTF-16
path and converts it, the importer converts the path and takes the name from its bytes.

* `utf16StrToUtf8Str`: the conversion, over `WideCharToMultiByte`.
* `encode_chosen`: the component that the functions look at is converted as it stands.
* `names_agree`: both ways end at one name.
-/

namespace FBXRenderer

open SS NulText LastSplit FixedString Utf

/-- `WideCharToMultiByte` gives the UTF-8 of any units. -/
def EncodesUtf8 (convert : List UInt16 → List UInt8) : Prop := ∀ us, convert us = encode us

section Model

-- `WideCharToMultiByte(CP_UTF8, ...)`: the bytes it has for some units
variable (convert : List UInt16 → List UInt8)

/-- `UTF16StrToUtf8Str`, with its assertion; what is read from the buffer that it fills and
terminates. -/
def utf16StrToUtf8Str (utf16Str : List UInt16) (utf16StrLen utf8BufferSize : Nat) :
    Option (NulStr UInt8) :=
  let outUtf8Str := convert (utf16Str.take utf16StrLen)
  if outUtf8Str.length < utf8BufferSize then
    some ⟨textOf (outUtf8Str ++ [0]), nul_not_mem_textOf⟩
  else none

namespace Wide

def slash : UInt16 := '/'.toNat.toUInt16
def backslash : UInt16 := '\\'.toNat.toUInt16
def dot : UInt16 := '.'.toNat.toUInt16

/-- The component that the function looks at. -/
def chosenComponent (path : List UInt16) : Option (List UInt16) :=
  chosenBehind slash backslash path

/-- Without a separator the name is cleared. -/
def extractFileNameFromFilePath (raw OutFileName : FixedString UInt8 ASSET_NAME_LEN_MAX)
    (InFilePath : NulStr UInt16) : Option (FixedString UInt8 ASSET_NAME_LEN_MAX) :=
  match (strrchr InFilePath.chars slash).or (strrchr InFilePath.chars backslash) with
  | none => OutFileName.clear
  | some start => do
    let fileNameStart := InFilePath.drop (start + 1)
    let InFilePathLen := toUint32 fileNameStart.chars.length
    let lFileName ← utf16StrToUtf8Str convert fileNameStart.chars InFilePathLen ASSET_NAME_LEN_MAX
    assignAndCutOut raw lFileName

end Wide

/-- `".mdlc"`. -/
def mdlcSuffix : NulStr UInt8 := ⟨[46, 109, 100, 108, 99], by decide⟩

/-- The name that `BeginFrame` looks up. -/
def beginFrameAssetName (raw mdlcAssetName : FixedString UInt8 ASSET_NAME_LEN_MAX)
    (fbxFilePath : NulStr UInt16) : Option (FixedString UInt8 ASSET_NAME_LEN_MAX) := do
  let mdlcAssetName ← Wide.extractFileNameFromFilePath convert raw mdlcAssetName fbxFilePath
  mdlcAssetName.addAssign mdlcSuffix

/-- The name under which `ImportCurrentSceneToModelAsset` registers the model combination, from the
path that `ImportFBXFileToAssetPool` hands to `LoadModelAssetFromFBXFile`. -/
def importedAssetName (rawPath : FixedString UInt8 PATH_LEN_MAX)
    (raw : FixedString UInt8 ASSET_NAME_LEN_MAX) (fbxFilePath : NulStr UInt16) :
    Option (FixedString UInt8 ASSET_NAME_LEN_MAX) := do
  let fbxFilePathA ← utf16StrToUtf8Str convert fbxFilePath.chars
    (toUint32 fbxFilePath.chars.length) PATH_LEN_MAX
  let _filePath ← construct rawPath fbxFilePathA
  let _fileName ← Narrow.extractFileNameFromFilePath raw
    ⟨textOf _filePath.dataPool, nul_not_mem_textOf⟩
  let assetName := _fileName
  assetName.addAssign mdlcSuffix

end Model

section Agree

variable {convert : List UInt16 → List UInt8} {path text : NulStr UInt16}
  {component name ext us : List UInt16} {c : Char}

theorem ascii_slash : Ascii '/' := by decide

theorem ascii_backslash : Ascii '\\' := by decide

theorem ascii_dot : Ascii '.' := by decide

theorem nul_not_mem_encode (text : NulStr UInt16) : (0 : UInt8) ∉ encode text.chars := by
  have hnul : Ascii (Char.ofNat 0) := by decide
  exact fun h => text.no_nul ((mem_encode_iff hnul).mp h)

/-- A text whose conversion fits is converted as a whole. -/
theorem utf16StrToUtf8Str_some (hconvert : EncodesUtf8 convert) {size : Nat}
    (hsize : size ≤ 2 ^ 32) (text : NulStr UInt16) (hfit : (encode text.chars).length < size) :
    ∃ data, utf16StrToUtf8Str convert text.chars (toUint32 text.chars.length) size = some data ∧
      data.chars = encode text.chars := by
  have hlen : toUint32 text.chars.length = text.chars.length :=
    toUint32_natCast ((length_le_encode _).trans_lt (hfit.trans_le hsize))
  have hbytes : convert (text.chars.take (toUint32 text.chars.length)) = encode text.chars := by
    rw [hlen, List.take_length, hconvert]
  refine ⟨⟨textOf (encode text.chars ++ [0]), nul_not_mem_textOf⟩, ?_, ?_⟩
  · simp only [utf16StrToUtf8Str, hbytes, if_pos hfit]
  · exact Holds.textOf_eq ⟨nul_not_mem_encode text, List.prefix_rfl⟩

theorem encode_splitsAt (hc : Ascii c) : SplitsAt encode (unitOf c) (byteOf c) where
  mem_iff := fun _ => mem_encode_iff hc
  split := encode_split hc

/-- The functions look at one component, before and after the conversion. -/
theorem encode_chosen (h : Wide.chosenComponent us = some component) :
    Narrow.chosenComponent (encode us) = some (encode component) := by
  have hchosen : Narrow.chosenComponent (encode us) = (Wide.chosenComponent us).map encode :=
    (encode_splitsAt ascii_slash).chosenBehind (encode_splitsAt ascii_backslash)
  rw [hchosen, h]
  rfl

theorem wide_extract_some (hconvert : EncodesUtf8 convert)
    (raw OutFileName : FixedString UInt8 ASSET_NAME_LEN_MAX)
    (hchosen : Wide.chosenComponent path.chars = some (name ++ Wide.dot :: ext))
    (hext : Wide.dot ∉ ext)
    (hfit : (encode (name ++ Wide.dot :: ext)).length < ASSET_NAME_LEN_MAX) :
    ∃ out, Wide.extractFileNameFromFilePath convert raw OutFileName path = some out ∧
      out.Tracks (encode name) := by
  obtain ⟨i, hstart, hcomponent⟩ := search_some hchosen
  obtain ⟨data, hdata, hchars⟩ := utf16StrToUtf8Str_some hconvert (by decide) (path.drop (i + 1))
    (hcomponent ▸ hfit)
  have hdot : dot ∉ encode ext := fun h => hext ((mem_encode_iff ascii_dot).mp h)
  have hsplit : data.chars = encode name ++ dot :: encode ext := by
    rw [hchars, hcomponent]
    exact encode_split ascii_dot name ext
  have hfit' : data.chars.length < ASSET_NAME_LEN_MAX := by
    rw [hchars, hcomponent]
    exact hfit
  obtain ⟨out, hname, htracks⟩ := assignAndCutOut_some raw hsplit hdot hfit'
  refine ⟨out, ?_, htracks⟩
  rw [Wide.extractFileNameFromFilePath, hstart]
  exact Option.bind_eq_some_iff.mpr ⟨data, hdata, hname⟩

/-- What an extended string reads as depends on its text alone. -/
theorem addAssign_text {s : FixedString UInt8 ASSET_NAME_LEN_MAX} {t : List UInt8}
    (htracks : s.Tracks t) (data : NulStr UInt8) :
    (s.addAssign data).map (fun s => textOf s.dataPool)
      = if t.length + data.chars.length < ASSET_NAME_LEN_MAX then some (t ++ data.chars)
        else none := by
  rcases Nat.lt_or_ge (t.length + data.chars.length) ASSET_NAME_LEN_MAX with hfit | hfit
  · obtain ⟨s', hadd, htracks'⟩ := addAssign_some (by decide) htracks data hfit
    rw [if_pos hfit, hadd, Option.map_some, htracks'.holds.textOf_eq]
  · have hout : s.strcpy s.len data.chars = none := strcpy_none (htracks.len_eq.symm ▸ hfit)
    rw [if_neg (Nat.not_lt_of_le hfit), FixedString.addAssign, FixedString.append, hout]
    rfl

/-- The text of the name with the suffix, if that fits. -/
def mdlcName (name : List UInt8) : Option (List UInt8) :=
  if name.length + mdlcSuffix.chars.length < ASSET_NAME_LEN_MAX then some (name ++ mdlcSuffix.chars)
  else none

theorem beginFrameAssetName_text {raw old s : FixedString UInt8 ASSET_NAME_LEN_MAX}
    {t : List UInt8} (h : Wide.extractFileNameFromFilePath convert raw old path = some s)
    (htracks : s.Tracks t) :
    (beginFrameAssetName convert raw old path).map (fun s => textOf s.dataPool) = mdlcName t := by
  rw [beginFrameAssetName, h]
  exact addAssign_text htracks mdlcSuffix

/-- The bytes of the path go through a string of their own before the name is taken. -/
theorem importedAssetName_text {rawPath : FixedString UInt8 PATH_LEN_MAX}
    {raw s : FixedString UInt8 ASSET_NAME_LEN_MAX} {pathA : NulStr UInt8} {t : List UInt8}
    (hpath : utf16StrToUtf8Str convert path.chars (toUint32 path.chars.length) PATH_LEN_MAX
      = some pathA) (hfit : pathA.chars.length < PATH_LEN_MAX)
    (h : Narrow.extractFileNameFromFilePath raw pathA = some s) (htracks : s.Tracks t) :
    (importedAssetName convert rawPath raw path).map (fun s => textOf s.dataPool)
      = mdlcName t := by
  obtain ⟨filePath, hcopy, hfile⟩ := construct_some (by decide) rawPath hfit
  have hread : (⟨textOf filePath.dataPool, nul_not_mem_textOf⟩ : NulStr UInt8) = pathA :=
    NulStr.ext hfile.holds.textOf_eq
  rw [importedAssetName, hpath]
  show ((construct rawPath pathA).bind _).map _ = _
  rw [hcopy]
  show ((Narrow.extractFileNameFromFilePath raw
    ⟨textOf filePath.dataPool, nul_not_mem_textOf⟩).bind _).map _ = _
  rw [hread, h]
  exact addAssign_text htracks mdlcSuffix

/-- Whatever the path holds before and behind its separator and its dot, lone surrogates included:
both functions return with one name, and the name that `BeginFrame` looks up is the one that the
importer registers. -/
theorem names_agree (hconvert : EncodesUtf8 convert) (path : NulStr UInt16)
    (hchosen : Wide.chosenComponent path.chars = some component) (hdot : Wide.dot ∈ component)
    (hpath : (encode path.chars).length < PATH_LEN_MAX)
    (hname : (encode component).length < ASSET_NAME_LEN_MAX)
    (rawPath : FixedString UInt8 PATH_LEN_MAX)
    (raw raw' OutFileName : FixedString UInt8 ASSET_NAME_LEN_MAX) :
    ∃ name pathA,
      utf16StrToUtf8Str convert path.chars (toUint32 path.chars.length) PATH_LEN_MAX
        = some pathA ∧
      (∃ out, Wide.extractFileNameFromFilePath convert raw OutFileName path = some out ∧
        out.Reads name) ∧
      (∃ out, Narrow.extractFileNameFromFilePath raw' pathA = some out ∧ out.Reads name) ∧
      (beginFrameAssetName convert raw OutFileName path).map (fun s => textOf s.dataPool)
        = mdlcName name ∧
      (importedAssetName convert rawPath raw' path).map (fun s => textOf s.dataPool)
        = mdlcName name := by
  obtain ⟨name, ext, rfl, hext⟩ := exists_last hdot
  obtain ⟨pathA, hconverted, hchars⟩ := utf16StrToUtf8Str_some hconvert (by decide) path hpath
  obtain ⟨wide, hwide, htracks⟩ :=
    wide_extract_some hconvert raw OutFileName hchosen hext hname
  have hsplit : encode (name ++ Wide.dot :: ext) = encode name ++ dot :: encode ext :=
    encode_split ascii_dot name ext
  have hdot' : dot ∉ encode ext := fun h => hext ((mem_encode_iff ascii_dot).mp h)
  have hchosen' : Narrow.chosenComponent pathA.chars = some (encode name ++ dot :: encode ext) := by
    rw [hchars, ← hsplit]
    exact encode_chosen hchosen
  obtain ⟨narrow, hnarrow, htracks'⟩ := Narrow.extract_some raw' hchosen' (hsplit ▸ hname) hdot'
  refine ⟨encode name, pathA, hconverted, ⟨wide, hwide, reads_iff.mpr htracks⟩,
    ⟨narrow, hnarrow, reads_iff.mpr htracks'⟩, beginFrameAssetName_text hwide htracks, ?_⟩
  exact importedAssetName_text hconverted (hchars ▸ hpath) hnarrow htracks'

/-- A folder with a backslash, and a name that starts with a high surrogate alone. -/
def surrogatePath : NulStr UInt16 := ⟨[0x61, 0x5C, 0x62, 0x2F, 0xD83D, 0x63, 0x2E, 0x66], by decide⟩

theorem names_agree_surrogate :
    ∃ name pathA,
      utf16StrToUtf8Str encode surrogatePath.chars (toUint32 surrogatePath.chars.length)
        PATH_LEN_MAX = some pathA ∧
      (∃ out, Wide.extractFileNameFromFilePath encode (blank UInt8 ASSET_NAME_LEN_MAX)
        (blank UInt8 ASSET_NAME_LEN_MAX) surrogatePath = some out ∧ out.Reads name) ∧
      (∃ out, Narrow.extractFileNameFromFilePath (blank UInt8 ASSET_NAME_LEN_MAX) pathA
        = some out ∧ out.Reads name) ∧
      (beginFrameAssetName encode (blank UInt8 ASSET_NAME_LEN_MAX)
        (blank UInt8 ASSET_NAME_LEN_MAX) surrogatePath).map (fun s => textOf s.dataPool)
          = mdlcName name ∧
      (importedAssetName encode (blank UInt8 PATH_LEN_MAX) (blank UInt8 ASSET_NAME_LEN_MAX)
        surrogatePath).map (fun s => textOf s.dataPool) = mdlcName name := by
  have hencode : EncodesUtf8 encode := fun _ => rfl
  have hchosen : Wide.chosenComponent surrogatePath.chars = some [0xD83D, 0x63, 0x2E, 0x66] := by
    decide
  exact names_agree hencode surrogatePath hchosen (by decide) (by decide) (by decide)
    (blank UInt8 PATH_LEN_MAX) (blank UInt8 ASSET_NAME_LEN_MAX) (blank UInt8 ASSET_NAME_LEN_MAX)
    (blank UInt8 ASSET_NAME_LEN_MAX)

end Agree

end FBXRenderer
