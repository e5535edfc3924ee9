import Wildflow.Store.Text

/-!
# Texts

What the relay uses of Go's `strings` and `unicode`.
-/

namespace Wildflow.Relay
open Wildflow.Store

def isSpace (c : Char) : Bool :=
  c.toNat ∈ [9, 10, 11, 12, 13, 32, 0x85, 0xA0, 0x1680, 0x2028, 0x2029, 0x202F, 0x205F, 0x3000] ||
    (0x2000 ≤ c.toNat && c.toNat ≤ 0x200A)

def trimSpace (text : String) : String := String.ofList (trim isSpace text.toList)

@[simp] theorem trimSpace_trimSpace (text : String) : trimSpace (trimSpace text) = trimSpace text := by
  simp [trimSpace, trim_idempotent]

/-- `strings.ToLower` on ASCII, which header names are. -/
def toLower (text : String) : String := String.ofList (text.toList.map Char.toLower)

/-- `%q` on text without characters to escape. -/
def quoted (text : String) : String := "\"" ++ text ++ "\""

def hasFront (front text : String) : Bool := front.toList.isPrefixOf text.toList

def replaceText (old new text : String) : String := String.ofList (replaceAll old.toList new.toList text.toList)

end Wildflow.Relay
