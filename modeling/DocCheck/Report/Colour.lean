import DocCheck.Text.Basic

/-!
Sequences that switch the colour and the weight of what a terminal shows.
-/

namespace DocCheck.Colour

def sequence (number : String) : Text :=
  "\x1b[".toList ++ number.toList ++ ['m']

def reset : Text := sequence "0"
def bold : Text := sequence "1"
def dim : Text := sequence "2"
def red : Text := sequence "31"
def green : Text := sequence "32"
def yellow : Text := sequence "33"
def cyan : Text := sequence "36"

end DocCheck.Colour
