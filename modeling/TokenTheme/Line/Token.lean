import TokenTheme.Line.State
/-!
# Tokens

A token starts at a byte of its line, ends where the next one starts, and carries a value: its
scopes, its packed attributes, or its class.
-/
namespace TokenTheme

structure Token (α : Type) where
  start : Nat
  value : α
  deriving DecidableEq, Inhabited

structure Line (α : Type) where
  tokens : List (Token α)
  ending : Ending
  deriving DecidableEq, Inhabited

variable {α β : Type}

def Token.map (f : α → β) (t : Token α) : Token β := ⟨t.start, f t.value⟩

def Line.map (f : α → β) (l : Line α) : Line β := ⟨l.tokens.map (·.map f), l.ending⟩

def Line.starts (l : Line α) : List Nat := l.tokens.map (·.start)

theorem Line.starts_map (f : α → β) (l : Line α) : (l.map f).starts = l.starts := by
  simp [Line.starts, Line.map, Token.map, Function.comp_def]

end TokenTheme
