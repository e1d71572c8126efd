import JsonSeek.Text.Grouped
import JsonSeek.Text.Quoted
import JsonSeek.Text.Utf8

/-!
# Reading the input

The input is a file or, if none is named, the standard input. It is refused if it is too large or no
UTF-8 text. All line ends count as line feeds.
-/

namespace JsonSeek.CommandLine

/-- Why a file cannot be read. -/
inductive FileFault
  | missing
  | isFolder
  | notFolder
  | nameTooLong
  | denied
deriving DecidableEq

/-- Why there is no input. -/
inductive InputFault
  | file (path : String) (fault : FileFault)
  | tooLarge (path : String) (size : Nat) (limit : Int)
  | malformed (fault : Text.Utf8Fault)

/-- The wording of a cause. -/
def causeText : Text.Utf8Cause → String
  | .invalidStart => "invalid start byte"
  | .invalidContinuation => "invalid continuation byte"
  | .unexpectedEnd => "unexpected end of data"

/-- The wording for bytes that are no UTF-8 text. -/
def malformedMessage (f : Text.Utf8Fault) : String :=
  let place :=
    if f.width = 1 then
      "byte 0x" ++ String.ofList (Text.hexDigits 2 f.byte.toNat) ++ " in position " ++
        toString f.start
    else "bytes in position " ++ toString f.start ++ "-" ++ toString (f.start + f.width - 1)
  "'utf-8' codec can't decode " ++ place ++ ": " ++ causeText f.cause

/-- The wording for a file that is too large. -/
def tooLargeMessage (path : String) (size : Nat) (limit : Int) : String :=
  path ++ " is " ++ Text.groupedNat size ++ " bytes, above the " ++ Text.groupedInt limit ++
    " byte limit (raise JSCOPE_MAX_FILE_SIZE to load it)"

/-- The wording of a fault. -/
def InputFault.message : InputFault → String
  | file path fault =>
    let numbered (text : String) := "Error reading input: " ++ text ++ ": " ++ Text.quoted path
    match fault with
    | .missing => "Error: File not found: " ++ path
    | .isFolder => numbered "[Errno 21] Is a directory"
    | .notFolder => numbered "[Errno 20] Not a directory"
    | .nameTooLong => numbered "[Errno 36] File name too long"
    | .denied => numbered "[Errno 13] Permission denied"
  | tooLarge path size limit => "Error reading input: " ++ tooLargeMessage path size limit
  | malformed fault => "Error reading input: " ++ malformedMessage fault

/-- The text with line feeds for all line ends. -/
def unifyLineEnds : List Char → List Char
  | '\r' :: '\n' :: rest => '\n' :: unifyLineEnds rest
  | '\r' :: rest => '\n' :: unifyLineEnds rest
  | c :: rest => c :: unifyLineEnds rest
  | [] => []

/-- The text of the bytes of an input. -/
def inputText (bytes : List UInt8) : Except InputFault String :=
  match Text.decodeUtf8 bytes with
  | .ok chars => .ok (String.ofList (unifyLineEnds chars))
  | .error fault => .error (.malformed fault)

/-- The text of a file of which at most `limit` bytes are read. -/
def fileText (path : String) (limit : Int) (content : Except FileFault (List UInt8)) :
    Except InputFault String :=
  match content with
  | .error fault => .error (.file path fault)
  | .ok bytes =>
    if limit < bytes.length then .error (.tooLarge path bytes.length limit) else inputText bytes

end JsonSeek.CommandLine
