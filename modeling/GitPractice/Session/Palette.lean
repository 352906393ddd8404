/-!
# Colours

A `Palette` paints parts of the output by what they are. Without colours every text stays as it is.
-/

namespace GitPractice

structure Palette where
  colored : Bool
  deriving DecidableEq, Repr

namespace Palette

def plain : Palette := ⟨false⟩

/-- The escape sequence with the given parameters. -/
def escape (parameters : String) : String :=
  String.singleton (Char.ofNat 27) ++ "[" ++ parameters ++ "m"

/-- The text between an escape sequence and the one that takes its effect back. -/
def paint (p : Palette) (parameters text : String) : String :=
  if p.colored then escape parameters ++ text ++ escape "0" else text

/-- The text in one of 256 colours. -/
def paintIndexed (p : Palette) (color : String) (text : String) : String :=
  p.paint ("38;5;" ++ color) text

/-- Titles of panels and lessons. -/
def header (p : Palette) (text : String) : String := p.paintIndexed "74" text

/-- Names of commands. -/
def literal (p : Palette) (text : String) : String := p.paintIndexed "250" text

/-- Hints and instructions. -/
def context (p : Palette) (text : String) : String := p.paintIndexed "245" text

/-- Secondary text. -/
def muted (p : Palette) (text : String) : String := p.paintIndexed "240" text

def green (p : Palette) (text : String) : String := p.paint "32" text

def yellow (p : Palette) (text : String) : String := p.paint "33" text

def red (p : Palette) (text : String) : String := p.paint "31" text

end Palette

end GitPractice
