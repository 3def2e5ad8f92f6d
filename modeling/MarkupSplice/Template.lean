import MarkupSplice.Text.Search

/-!
# Templates

A template is a text in which `#{name}` stands for the value of a variable and
`##{` for the two characters `#{`. What no variable has as its name, and a `#{`
that is never closed, stand for themselves. Values are not read again.
-/
namespace MarkupSplice
namespace Template
open Text

def value (lookup : String → Option String) (name : List Char) : List Char :=
  match lookup (String.ofList name) with
  | some v => v.toList
  | none => '#' :: '\x7b' :: name ++ ['\x7d']

def expand (lookup : String → Option String) (s : List Char) : List Char :=
  match s with
  | [] => []
  | '#' :: '#' :: '\x7b' :: r => '#' :: '\x7b' :: expand lookup r
  | '#' :: '\x7b' :: r =>
    match h : cutAt ['\x7d'] r with
    | some (name, rest) =>
      have := length_of_cutAt h
      value lookup name ++ expand lookup rest
    | none => '#' :: '\x7b' :: r
  | c :: r => c :: expand lookup r
termination_by s.length

end Template

def interpolate (template : String) (lookup : String → Option String) : String :=
  String.ofList (Template.expand lookup template.toList)

end MarkupSplice
