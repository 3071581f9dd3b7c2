import Mathlib.Data.List.Basic

/-!
# `Infrarust.Api.Component`: texts with `&` codes and placeholders

`from_legacy` turns a text with `&` codes into a chat component, and `format_placeholders` puts
values for `{key}` into a template before that. A text is the list of its characters. Of a
component only the fields are here that a text with codes can set.
-/

set_option autoImplicit false

namespace Infrarust

/-- `legacy_color_name`: the color of a code. -/
def legacyColorName : Char → Option String
  | '0' => some "black"
  | '1' => some "dark_blue"
  | '2' => some "dark_green"
  | '3' => some "dark_aqua"
  | '4' => some "dark_red"
  | '5' => some "dark_purple"
  | '6' => some "gold"
  | '7' => some "gray"
  | '8' => some "dark_gray"
  | '9' => some "blue"
  | 'a' => some "green"
  | 'b' => some "aqua"
  | 'c' => some "red"
  | 'd' => some "light_purple"
  | 'e' => some "yellow"
  | 'f' => some "white"
  | _ => none

structure Component where
  text : List Char
  color : Option String := none
  bold : Option Bool := none
  italic : Option Bool := none
  underlined : Option Bool := none
  extra : List Component := []

/-- `LegacyFmt`: the formatting that the codes so far have set. -/
structure LegacyFmt where
  color : Option String := none
  bold : Bool := false
  italic : Bool := false
  underlined : Bool := false
deriving DecidableEq, Repr

namespace LegacyFmt

variable (fmt : LegacyFmt)

def apply (text : List Char) : Component where
  text := text
  color := fmt.color
  bold := if fmt.bold then some true else none
  italic := if fmt.italic then some true else none
  underlined := if fmt.underlined then some true else none

/-- The formatting after a character behind `&`, if that is a format code. -/
def code : Char → Option LegacyFmt
  | 'l' => some { fmt with bold := true }
  | 'o' => some { fmt with italic := true }
  | 'n' => some { fmt with underlined := true }
  | 'r' => some {}
  | c => (legacyColorName c).map fun name => { fmt with color := some name }

end LegacyFmt

/-- The variables of `from_legacy`'s loop. -/
structure LegacyParser where
  parts : List Component := []
  segment : List Char := []
  fmt : LegacyFmt := {}

namespace LegacyParser

variable (s : LegacyParser)

/-- Ends the segment, if there is one. -/
def flush : LegacyParser :=
  if s.segment.isEmpty then s
  else { s with parts := s.parts ++ [s.fmt.apply s.segment], segment := [] }

def push (ch : Char) : LegacyParser := { s with segment := s.segment ++ [ch] }

def setFmt (fmt : LegacyFmt) : LegacyParser := { s with fmt }

def run (s : LegacyParser) : List Char → LegacyParser
  | [] => s.flush
  | '&' :: code :: rest =>
    match s.fmt.code code with
    | some fmt => run (s.flush.setFmt fmt) rest
    -- the `&` is text, and the character behind it is looked at again
    | none => run (s.push '&') (code :: rest)
  | ch :: rest => run (s.push ch) rest

end LegacyParser

/-- `from_legacy`: the first part is the root, and the others are its children. -/
def Component.fromLegacy (text : List Char) : Component :=
  match (LegacyParser.run {} text).parts with
  | [] => { text := [] }
  | root :: rest => rest.foldl (fun root part => { root with extra := root.extra ++ [part] }) root

/-- `str::replace`: every occurrence from left to right, the first `skip` characters being those
of one that was replaced. -/
def replaceText (pattern value : List Char) : Nat → List Char → List Char
  | _, [] => []
  | skip + 1, _ :: rest => replaceText pattern value skip rest
  | 0, ch :: rest =>
    if pattern.isPrefixOf (ch :: rest) then
      value ++ replaceText pattern value (pattern.length - 1) rest
    else ch :: replaceText pattern value 0 rest

def formatPlaceholders (template : List Char) (vars : List (List Char × List Char)) : List Char :=
  vars.foldl (fun result var => replaceText ('{' :: (var.1 ++ ['}'])) var.2 0 result) template

def Component.fromLegacyFormat (template : List Char) (vars : List (List Char × List Char)) :
    Component :=
  fromLegacy (formatPlaceholders template vars)

end Infrarust
