import PagedForm.Field.Answer
import PagedForm.Schema.Data
import PagedForm.Text.Numeral

/-!
# Uploads

Files that are uploaded to a field are described by their name, size and type. They are checked
against the field's limit first and against its accepted types only when none is too large. The
answer is the list of their descriptions, or the first of them when the field takes one file.
-/

namespace PagedForm

/-- The whole number that a value gives: a number without its fraction, or the integer that a text
spells. -/
def Value.wholeNumber : Value → Result Int
  | .bool b => .ok (if b then 1 else 0)
  | .int n => .ok n
  | .float x =>
      match x.truncate? with
      | some n => .ok n
      | none => .error (.value (if x = .nan then .undefinedNumber else .overflow))
  | .text s =>
      match Text.integer s with
      | .ok n => .ok n
      | .error .malformed => .error (.value (.badNumeral s))
      | .error (.long digits) => .error (.value (.longNumeral digits))
  | _ => .error .mistyped

/-- The description of a file that a value gives: one already, or a record with its parts. -/
def FileInfo.ofValue : Value → Result FileInfo
  | .file name size type url => .ok ⟨name, size, type, url⟩
  | .record entries => do
      let entry (name : String) (usual : Value) : Value :=
        (Value.find? (.text name) entries).getD usual
      let size ← ((entry "size" (.int 0)).orElse (.int 0)).wholeNumber
      pure
        { name := .text (entry "name" (.text "")).shown
          size := .int size
          type := .text (entry "type" (.text "")).shown
          url := .text (entry "url" (.text "")).shown }
  | _ => .error .unsupported

namespace Upload

/-- What is added to a size limit in megabytes to make it one in bytes: two factors of `1024`. -/
def bytesPower : Nat := 20

/-- A size limit in bytes. A limit that is a text or a list is taken as it is here; `stretched`
makes it as long as it has to be. -/
def limitInBytes : Value → Result Value
  | .bool b => .ok (.int ((if b then 1 else 0) * (twoTo bytesPower : Int)))
  | .int n => .ok (.int (n * (twoTo bytesPower : Int)))
  | .float x => .ok (.float (x.timesPower bytesPower))
  | .text s => .ok (.text s)
  | .list items => .ok (.list items)
  | _ => .error .mistyped

/-- How often a text or a list of this length is repeated to be compared with it: as often as a
megabyte has bytes, and never more than makes it the longer one. -/
def copies (length : Nat) : Nat :=
  min (twoTo bytesPower) (length + 1)

/-- A limit to compare a size with. Two texts, and two lists, can be compared; as a limit they are
repeated, once for each byte of a megabyte. -/
def stretched (limit size : Value) : Value :=
  match limit, size with
  | .text s, .text t => .text ("".intercalate (List.replicate (copies t.length) s))
  | .list xs, .list ys => .list (List.replicate (copies ys.length) xs).flatten
  | limit, _ => limit

/-- A file is larger than a limit in bytes. -/
def isOversized (limit : Value) (info : FileInfo) : Result Bool :=
  match info.size.above? (stretched limit info.size) with
  | some above => .ok above
  | none => .error .mistyped

/-- A pattern stands for the types of one family. -/
def isFamily (pattern : String) : Bool :=
  pattern.toList.getLast? = some '*' && pattern.toList.dropLast.getLast? = some '/'

/-- A type matches a pattern: every type, the types of one family, or one type. Only a text has a
family. -/
def matchesPattern (type pattern : Value) : Result Bool :=
  if pattern.isText "*/*" then .ok true
  else do
    let p ← pattern.asText
    if isFamily p then type.asText.map fun t => p.toList.dropLast.isPrefixOf t.toList
    else pure (type.isText p)

/-- A type matches one of the patterns. -/
def isAccepted (type : Value) : List Value → Result Bool
  | [] => .ok false
  | pattern :: rest => do
      if ← matchesPattern type pattern then pure true else isAccepted type rest

/-- The files for which a test holds. -/
def filterM (test : FileInfo → Result Bool) : List FileInfo → Result (List FileInfo)
  | [] => .ok []
  | info :: rest => do
      let holds ← test info
      let others ← filterM test rest
      pure (if holds then info :: others else others)

/-- The message that lists files by name; the names have to be texts. -/
def listFiles (start : String) (files : List FileInfo) : Result String :=
  (Value.joinTexts ", " (files.map FileInfo.name)).map fun names => start ++ names

/-- The messages for files that are too large, else for those of other types. -/
def problems (spec : UploadSpec) (settings : Settings) (files : List FileInfo) :
    Result (List String) := do
  let limit ← limitInBytes (spec.limit settings)
  let oversized ← filterM (isOversized limit) files
  if !oversized.isEmpty then (listFiles "Files too large: " oversized).map fun text => [text]
  else if spec.acceptedTypes.isEmpty then pure []
  else
    let invalid ← filterM (fun info => (isAccepted info.type spec.acceptedTypes).map not) files
    if invalid.isEmpty then pure []
    else (listFiles "Invalid file types: " invalid).map fun text => [text]

/-- The answer that uploaded files make. -/
def answerOf (spec : UploadSpec) (files : List FileInfo) : Value :=
  let described := files.map FileInfo.toValue
  if spec.multiple.truthy then .list described
  else described.head?.getD .null

end Upload

namespace Field

/-- What a field accepts, which must be a file field. -/
def asUpload (field : Field) : Result UploadSpec :=
  match field.upload? with
  | some spec => .ok spec
  | none => .error .unsupported

/-- The problems with files given to a field. -/
def checkUpload (field : Field) (files : List Value) (settings : Settings) :
    Result (List String) := do
  let infos ← files.mapM FileInfo.ofValue
  let spec ← field.asUpload
  Upload.problems spec settings infos

/-- The answer that files given to a field make. -/
def uploadAnswer (field : Field) (files : List Value) : Result Value := do
  let infos ← files.mapM FileInfo.ofValue
  let spec ← field.asUpload
  pure (Upload.answerOf spec infos)

end Field

end PagedForm
