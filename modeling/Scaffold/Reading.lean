/-
Reading from a list: a step takes items from the front or fails, and what fails takes nothing.
-/

namespace Scaffold

abbrev Reading (τ α : Type) := StateT (List τ) Option α

namespace Reading

variable {τ α : Type}

def fail : Reading τ α :=
  fun _ => none

def peek : Reading τ (Option τ) :=
  fun ts => some (ts.head?, ts)

def takeIf (f : τ → Option α) : Reading τ (Option α) :=
  fun ts => match ts with
  | t :: rest =>
    match f t with
    | some a => some (some a, rest)
    | none => some (none, ts)
  | [] => some (none, ts)

/-- The result of an optional step, which has to be there. -/
def required (read : Reading τ (Option α)) : Reading τ α := do
  match ← read with
  | some a => pure a
  | none => fail

/-- Tries a step; if it fails, nothing is taken. -/
def maybe (read : Reading τ α) : Reading τ (Option α) :=
  fun ts => match read ts with
  | some (a, rest) => some (some a, rest)
  | none => some (none, ts)

/-- Takes an item that is there in exactly this form. -/
def item? [DecidableEq τ] (t : τ) : Reading τ Bool := do
  return (← takeIf fun u => if u = t then some () else none).isSome

def item [DecidableEq τ] (t : τ) : Reading τ Unit := do
  if ← item? t then pure () else fail

def many (read : Reading τ (Option α)) : Reading τ (List α) :=
  fun ts => go (ts.length + 1) ts
where
  go : Nat → Reading τ (List α)
    | 0 => pure []
    | fuel + 1 => do
      match ← read with
      | some a => return a :: (← go fuel)
      | none => pure []

/-- Goes on from a value as long as a step leads further. -/
def grow (step : α → Reading τ (Option α)) (a : α) : Reading τ α :=
  fun ts => go (ts.length + 1) a ts
where
  go : Nat → α → Reading τ α
    | 0, a => pure a
    | fuel + 1, a => do
      match ← step a with
      | some b => go fuel b
      | none => pure a

/-- One item, then further ones behind separators. -/
def separated [DecidableEq τ] (separator : τ) (read : Reading τ α) : Reading τ (List α) := do
  let first ← read
  let rest ← many do
    if ← item? separator then return some (← read) else pure none
  return first :: rest

end Reading
end Scaffold
