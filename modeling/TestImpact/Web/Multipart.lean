import TestImpact.Web.Lines

namespace TestImpact.Web.Multipart

structure Part where
  name : String
  file : Option (String × String) := none
  content : List UInt8
  deriving DecidableEq, Repr

def Part.text (name value : String) : Part := ⟨name, none, Text.Utf8.encode value⟩

def escapeQuoted (value : String) : String :=
  String.ofList <| value.toList.flatMap fun c => if c = '\\' ∨ c = '"' then ['\\', c] else [c]

def Part.disposition (p : Part) : String :=
  let base := "form-data; name=\"" ++ escapeQuoted p.name ++ "\""
  match p.file with
  | some (fileName, _) => base ++ "; filename=\"" ++ escapeQuoted fileName ++ "\""
  | none => base

def Part.encode (boundary : String) (p : Part) : List UInt8 :=
  line ("--" ++ boundary) ++
    line ("Content-Disposition: " ++ p.disposition) ++
    (match p.file with
     | some (_, mediaType) => line ("Content-Type: " ++ mediaType)
     | none => []) ++
    lineEnd ++ p.content ++ lineEnd

def encode (boundary : String) (parts : List Part) : List UInt8 :=
  parts.flatMap (Part.encode boundary) ++ line ("--" ++ boundary ++ "--")

def mediaType (boundary : String) : String := "multipart/form-data; boundary=" ++ boundary

end TestImpact.Web.Multipart
