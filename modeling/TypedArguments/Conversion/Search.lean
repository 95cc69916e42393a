import TypedArguments.Argument
import TypedArguments.Conversion.Context
import TypedArguments.Conversion.Outcome

/-!
# The search for a conversion

`Context.convert` reads an argument at a type. It looks for a registered converter from the type at
hand to the type wanted; if there is none it wants the content of the target instead, as long as
the target is nullable, and after that it goes on from the content of the source. So every hop
takes off one optional layer, and the search is a recursion on the two types. `Context.supports`
tells by the types alone whether some value can get through.
-/

namespace TypedArguments

variable {κ : Type} [DecidableEq κ] [UserTypes κ]

namespace Context

/-- The search from the value `v` of `s` to a target and then to its contents. Where no content of
the target is left, `past` goes on from the content of the source. The value that stands for
nothing at its own type stands for nothing at the target. -/
def searchTargets (ctx : Context κ) (s : Ty κ) (v : s.Val) (past : (t : Ty κ) → Outcome t) :
    (t : Ty κ) → Outcome t
  | .base b =>
    .after (.hop s (.base b)) <|
      match ctx.find? s (.base b) with
      | some f => .ran f v
      | none => past (.base b)
  | .option u =>
    .after (.hop s (.option u)) <|
      match ctx.find? s (.option u) with
      | some f => .ran f v
      | none =>
        if u ∈ ctx.optionals ∧ u ≠ s then
          if ctx.isAbsent s v then .found none
          else ((searchTargets ctx s v past u).restate s (.option u)).populated
        else past (.option u)

/-- The search from a value to a type other than its own. -/
def search (ctx : Context κ) : (s : Ty κ) → s.Val → (t : Ty κ) → Outcome t
  | .base b, v => ctx.searchTargets (.base b) v (.unsupported (.base b))
  | .option s, v =>
    ctx.searchTargets (.option s) v fun t =>
      if s ∈ ctx.optionals then
        match v with
        | none => .failed (.null t.name)
        | some w =>
          if h : s = t then .found (h ▸ w) else (search ctx s w t).restate (.option s) t
      else .unsupported (.option s) t

/-- Reads an argument at the type `t`. A value of that very type is read as it is. -/
def convert (ctx : Context κ) (a : Argument κ) (t : Ty κ) : Outcome t :=
  match a with
  | .null =>
    .after (.null t) <|
      match ctx.absent? t with
      | some v => .found v
      | none => .failed (.null t.name)
  | .stored ⟨s, v⟩ _ => if h : s = t then .found (h ▸ v) else ctx.search s v t

/-- The types that `searchTargets` gets through to, by the types alone. -/
def reaches (ctx : Context κ) (s : Ty κ) (past : Ty κ → Bool) : Ty κ → Bool
  | .base b => s = .base b || ctx.contains s (.base b) || past (.base b)
  | .option u =>
    s = .option u || ctx.contains s (.option u)
      || (u ∈ ctx.optionals && u ≠ s && reaches ctx s past u) || past (.option u)

/-- A value of `s` can be asked for as `t`. -/
def supports (ctx : Context κ) : (s t : Ty κ) → Bool
  | .base b, t => ctx.reaches (.base b) (fun _ => false) t
  | .option s, t => ctx.reaches (.option s) (fun u => s ∈ ctx.optionals && supports ctx s u) t

end Context

end TypedArguments
