import SensorFrames.Text.Reader
import SensorFrames.Url.Encoding

/-!
Paths are made of segments, each after a slash. A segment of one dot is left out, and one of two
dots takes the segment before it with it, though never a drive letter.
-/

set_option autoImplicit false

namespace SensorFrames.Url.Path

open Text

/-- A segment with the dots that are percent-encoded written as such. -/
def dotsShown : List Char → List Char
  | '%' :: '2' :: 'e' :: rest | '%' :: '2' :: 'E' :: rest => '.' :: dotsShown rest
  | c :: rest => c :: dotsShown rest
  | [] => []

def isSingleDot (segment : List Char) : Bool := dotsShown segment == ['.']

def isDoubleDot (segment : List Char) : Bool := dotsShown segment == ['.', '.']

def isDrive : List Char → Bool
  | [c, mark] => c.isAlpha && (mark == ':' || mark == '|')
  | _ => false

/-- The segments before the last, the last of them first. -/
def climbed : List (List Char) → List (List Char)
  | [] => []
  | segment :: rest => if isDrive segment then segment :: rest else rest

/-- Goes through the segments; `before` are those that are kept so far, the last first. The path
ends in a slash when the last segment is one of dots. -/
def resolved (before : List (List Char)) : List (List Char) → List (List Char)
  | [] => before.reverse
  | [last] =>
    if isDoubleDot last then ([] :: climbed before).reverse
    else if isSingleDot last then ([] :: before).reverse
    else (last :: before).reverse
  | segment :: rest =>
    if isDoubleDot segment then resolved (climbed before) rest
    else if isSingleDot segment then resolved before rest
    else resolved (segment :: before) rest

def text (segments : List (List Char)) : List Char := segments.flatMap ('/' :: ·)

def segments (isSlash : Char → Bool) (cs : List Char) : List (List Char) :=
  (pieces '/' (cs.map fun c => if isSlash c then '/' else c)).map Part.path.encoded

def withColon (segment : List Char) : List Char :=
  if isDrive segment then segment.take 1 ++ [':'] else segment

def fileText (segments : List (List Char)) : List Char :=
  '/' :: (text segments).dropWhile (· == '/')

end SensorFrames.Url.Path
