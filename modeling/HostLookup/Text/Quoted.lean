import HostLookup.Text.Packed
import HostLookup.Text.Numeral
import HostLookup.Text.Quoted.Hidden

/-! Quoted text, as messages show it: between double quotes, with a backslash before a quote or a
backslash, short escapes for four controls, and the number of each other character that cannot be seen
or does not stand on its own. -/
namespace HostLookup.Text
open Packed

def hidden : List Interval :=
  intervals hiddenRows

def escape (c : Char) : List Char :=
  match c with
  | '"' => ['\\', '"']
  | '\\' => ['\\', '\\']
  | '\t' => ['\\', 't']
  | '\n' => ['\\', 'n']
  | '\r' => ['\\', 'r']
  | '\x00' => ['\\', '0']
  | c =>
    if covers hidden c then
      ['\\', 'u', '\x7b'] ++ Numeral.hexadecimal c.toNat ++ ['\x7d']
    else [c]

def quote (text : String) : String :=
  String.ofList ('"' :: text.toList.flatMap escape ++ ['"'])

end HostLookup.Text
