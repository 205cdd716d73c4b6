import TestImpact.Coverage.Lines
import TestImpact.Table

namespace TestImpact.Coverage

abbrev LinesByFile := Table String (List UInt32)

def fileText (file : String × List UInt32) : String := file.1 ++ ":" ++ linesText file.2

def coveredFiles (files : LinesByFile) : List (String × List UInt32) :=
  (files.entries.filter fun file => !file.2.isEmpty).mergeSort fun a b => decide (a.1 ≤ b.1)

def text (files : LinesByFile) : String := "\n".intercalate ((coveredFiles files).map fileText)

def dropReturn (line : List Char) : List Char :=
  if line.getLast? = some '\r' then line.dropLast else line

/-- The lines of a text. A line end at its end begins no further line, and a carriage return belongs
    to the line end behind it. -/
def textLines (cs : List Char) : List (List Char) :=
  let pieces := cs.splitOn '\n'
  pieces.dropLast.map dropReturn ++ (pieces.getLast?.toList.filter (· ≠ []))

def splitLastColon (line : List Char) : Option (String × String) :=
  if ':' ∈ line then
    let behind := (line.reverse.takeWhile (· ≠ ':')).reverse
    some (String.ofList (line.take (line.length - behind.length - 1)), String.ofList behind)
  else none

/-- The files of a coverage text with their ranges. The last colon of a line stands before the
    ranges, so that a path may hold colons itself. -/
def filesOf (text : String) : List (String × String) :=
  (textLines text.toList).filterMap splitLastColon

end TestImpact.Coverage
