import WorkerLint.Text

namespace WorkerLint.Tool.Grep

structure Palette where
  isOn : Bool
  selectedMatch : Text
  contextMatch : Text
  selectedLine : Text
  contextLine : Text
  fileName : Text
  lineNumber : Text
  byteOffset : Text
  separator : Text
  /-- The colors of selected lines and of others change places where the others are asked for. -/
  reverses : Bool
  erases : Bool
  deriving DecidableEq, Repr

namespace Palette

def standard (isOn : Bool) : Palette where
  isOn
  selectedMatch := "01;31".toList
  contextMatch := "01;31".toList
  selectedLine := []
  contextLine := []
  fileName := "35".toList
  lineNumber := "32".toList
  byteOffset := "32".toList
  separator := "36".toList
  reverses := false
  erases := true

def opening (palette : Palette) (color : Text) : Text :=
  if palette.isOn ∧ color ≠ [] then
    "\x1b[".toList ++ color ++ ['m'] ++ (if palette.erases then "\x1b[K".toList else [])
  else []

def closing (palette : Palette) (color : Text) : Text :=
  if palette.isOn ∧ color ≠ [] then
    "\x1b[m".toList ++ (if palette.erases then "\x1b[K".toList else [])
  else []

def paint (palette : Palette) (color text : Text) : Text :=
  palette.opening color ++ text ++ palette.closing color

def set (palette : Palette) (name : Text) (color : Option Text) : Palette :=
  match String.ofList name, color with
  | "mt", some color => { palette with selectedMatch := color, contextMatch := color }
  | "mt", none => { palette with contextMatch := palette.selectedMatch }
  | "ms", some color => { palette with selectedMatch := color }
  | "mc", some color => { palette with contextMatch := color }
  | "fn", some color => { palette with fileName := color }
  | "ln", some color => { palette with lineNumber := color }
  | "bn", some color => { palette with byteOffset := color }
  | "se", some color => { palette with separator := color }
  | "sl", some color => { palette with selectedLine := color }
  | "cx", some color => { palette with contextLine := color }
  | "rv", _ => { palette with reverses := true }
  | "ne", _ => { palette with erases := false }
  | _, _ => palette

def isColor (text : Text) : Bool :=
  text.all fun c => c.isDigit || c == ';'

def setAll (palette : Palette) : List Text → Palette
  | [] => palette
  | entry :: rest =>
    let name := entry.takeWhile (· ≠ '=')
    match entry.drop name.length with
    | [] => (palette.set name none).setAll rest
    | _ :: color =>
      if name ≠ [] ∧ isColor color then (palette.set name (some color)).setAll rest else palette

def ofEnvironment (isOn : Bool) (environment : List (Text × Text)) : Palette :=
  let value (name : String) : Text :=
    ((environment.find? (·.1 == name.toList)).map (·.2)).getD []
  let old := value "GREP_COLOR"
  let start :=
    if old ≠ [] ∧ isColor old then (standard isOn).set "mt".toList (some old) else standard isOn
  let given := value "GREP_COLORS"
  if given = [] then start else start.setAll (Text.pieces ':' given)

end Palette

end WorkerLint.Tool.Grep
