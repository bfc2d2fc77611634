/-
  Querycraft.Parameters — the named values of a command, in the order they were bound.

  A name is bound once: `add` under a name that is there changes nothing and says so.
  `extend` adds every entry of another map, so the receiver's entries come first and win.
-/

import Querycraft.Value.Basic

namespace Querycraft

structure Parameters where
  entries : List (String × Value)

namespace Parameters

def empty : Parameters := ⟨[]⟩

def size (p : Parameters) : Nat := p.entries.length

def isEmpty (p : Parameters) : Bool := p.entries.isEmpty

def names (p : Parameters) : List String := p.entries.map Prod.fst

def values (p : Parameters) : List Value := p.entries.map Prod.snd

def contains (p : Parameters) (name : String) : Bool := p.names.contains name

def get? (p : Parameters) (name : String) : Option Value := p.entries.lookup name

def first? (p : Parameters) : Option (String × Value) := p.entries.head?

/-- The map with one entry more, if the name is new; and whether it was. -/
def add (p : Parameters) (name : String) (value : Value) : Parameters × Bool :=
  if p.contains name then (p, false) else (⟨p.entries ++ [(name, value)]⟩, true)

def extend (p other : Parameters) : Parameters :=
  other.entries.foldl (fun held (name, value) => (held.add name value).1) p

def same (p other : Parameters) : Bool :=
  p.size == other.size &&
    (p.entries.zip other.entries).all fun ((m, a), (n, b)) => m == n && a.same b

end Parameters

end Querycraft
