import TypedSearch.Markup.Element

/-!
# Printing elements

The text of an element without any space added: what would be read as markup is escaped, and in
attributes also what would be read as a space.

## What is covered

`print` writes the elements of commands, whose tags and attributes have no prefixes.
-/

namespace TypedSearch.Markup

def printTextChar (c : Char) : List Char :=
  if c == '&' then "&amp;".toList
  else if c == '<' then "&lt;".toList
  else if c == '>' then "&gt;".toList
  else [c]

def printValueChar (c : Char) : List Char :=
  if c == '"' then "&quot;".toList
  else if c == '\r' then "&#13;".toList
  else if c == '\n' then "&#10;".toList
  else if c == '\t' then "&#09;".toList
  else printTextChar c

def printText (cs : List Char) : List Char := cs.flatMap printTextChar

def printValue (cs : List Char) : List Char := cs.flatMap printValueChar

/-- An attribute as it is printed, with a space in front. -/
def printAttribute (a : String × String) : List Char :=
  ' ' :: a.1.toList ++ '=' :: '"' :: printValue a.2.toList ++ ['"']

def printOpening (tag : String) (attributes : List (String × String)) : List Char :=
  '<' :: tag.toList ++ attributes.flatMap printAttribute

def printClosing (tag : String) : List Char := '<' :: '/' :: tag.toList ++ ['>']

mutual

/-- An element as it is printed; one without content is a single tag. -/
def Element.print : Element → List Char
  | .mk tag attributes text children =>
    printOpening tag attributes ++
      if text.isEmpty && children.isEmpty then " />".toList
      else '>' :: printText text.toList ++ printAll children ++ printClosing tag

/-- Elements as they are printed, one after the other. -/
def printAll : List Element → List Char
  | [] => []
  | e :: es => e.print ++ printAll es

end

end TypedSearch.Markup
