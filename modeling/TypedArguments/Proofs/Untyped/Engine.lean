import Mathlib.Logic.Function.Basic
import Mathlib.Tactic.Lemma
import TypedArguments.Accessor.Basic
import TypedArguments.Proofs.Search.Layers

/-!
# The engine and the accessor over untyped values

The engine as it is where values have forgotten their types: a converter is a function between
values of whatever type, and the view of a nullable type (`Untyped.Shape`) wraps and unwraps such
values. Both look for the type that they expect and fail on others, so here a search can also fail
because a value that it found does not fit (`Outcome.wrap`). So can a read of the accessor, with a
record of its own (`Accessor.read`), unless it gives the value as it comes (`Accessor.readDynamic`).
Nothing in the types of the engine tells that this does not happen.
-/

namespace TypedArguments.Untyped

variable {κ : Type} [UserTypes κ]

/-- A function on values of whatever type. -/
abbrev Converter (κ : Type) [UserTypes κ] : Type :=
  Dynamic κ → Except ConversionError (Dynamic κ)

/-- The function that is registered for a conversion: a value that is not of the source cannot be
converted, and the results have the type of the target. -/
def Converter.ofConversion [DecidableEq κ] (c : Conversion κ) : Converter κ := fun d =>
  match d.downcast? c.source with
  | some v => (c.run v).map (Dynamic.mk c.target)
  | none => .error (.unsupported c.source.name c.target.name)

/-- The view of the nullable type `t`: its content, its empty value, and how a value is put into it
and taken out. -/
structure Shape (t : Ty κ) where
  content : Ty κ
  empty : Dynamic κ
  wrap : Dynamic κ → Option (Dynamic κ)
  unwrap : Dynamic κ → Option (Dynamic κ)
  shrinks : content.depth < t.depth

/-- The view of the optional type over `s`. -/
def Shape.of [DecidableEq κ] (s : Ty κ) : Shape (.option s) where
  content := s
  empty := ⟨.option s, none⟩
  wrap d := (d.downcast? s).map fun v => ⟨.option s, some v⟩
  unwrap d := (d.downcast? (.option s)).bind fun v => v.map (Dynamic.mk s)
  shrinks := Nat.lt_succ_self _

/-- A step on the way from an argument to a type. -/
inductive Step (κ : Type) [UserTypes κ] where
  /-- The null argument is wanted as `target`. -/
  | null (target : Ty κ)
  /-- A value of `source` is wanted as `target`. -/
  | hop (source target : Ty κ)
  /-- The converter registered from `source` to `target` is run. -/
  | run (source target : Ty κ) (input : Dynamic κ)

/-- How a search ended, and the steps that it took. -/
structure Outcome (κ : Type) [UserTypes κ] where
  trail : List (Step κ)
  result : Except ConversionError (Dynamic κ)

/-- The record of a step; running a converter leaves none. -/
def Step.record? : Step κ → Option Record
  | .null target => some (.convertingNull target)
  | .hop source target => some (.converting source target)
  | .run .. => none

namespace Outcome

/-- A value is found without further steps. -/
def found (d : Dynamic κ) : Outcome κ :=
  ⟨[], .ok d⟩

/-- The search fails without further steps. -/
def failed (e : ConversionError) : Outcome κ :=
  ⟨[], .error e⟩

/-- A registered converter is run. -/
def ran (source target : Ty κ) (f : Converter κ) (d : Dynamic κ) : Outcome κ :=
  ⟨[.run source target d], f d⟩

/-- The outcome after one step more. -/
def after (step : Step κ) (o : Outcome κ) : Outcome κ :=
  ⟨step :: o.trail, o.result⟩

/-- The outcome of a later hop, for the way from `source` to `target`. -/
def restate (source target : Ty κ) (o : Outcome κ) : Outcome κ :=
  ⟨o.trail, o.result.mapError (·.restate source.name target.name)⟩

/-- The outcome with the value found put into the nullable type, if it fits. -/
def wrap {target : Ty κ} (shape : Shape target) (o : Outcome κ) : Outcome κ where
  trail := o.trail
  result := o.result.bind fun d =>
    match shape.wrap d with
    | some d => .ok d
    | none => .error (.mistyped target.name)

/-- The records that the search leaves. -/
def records (o : Outcome κ) : List Record :=
  o.trail.filterMap Step.record?

end Outcome

/-- Converters by pairs of types, and the views of the nullable types. -/
structure Context (κ : Type) [UserTypes κ] where
  converters : Ty κ × Ty κ → Option (Converter κ)
  shapes : (t : Ty κ) → Option (Shape t)

namespace Context

/-- A context that knows nothing. -/
def empty : Context κ where
  converters _ := none
  shapes _ := none

variable [DecidableEq κ]

/-- Registers a conversion, in the place of another for the same pair. -/
def register (u : Context κ) (c : Conversion κ) : Context κ :=
  { u with converters := Function.update u.converters c.pair (some (.ofConversion c)) }

/-- Makes the optional type over `s` nullable. -/
def registerOptional (u : Context κ) (s : Ty κ) : Context κ where
  converters := ((u.register (.box s)).register (.unbox s)).converters
  shapes := Function.update u.shapes (.option s) (some (.of s))

/-- Takes in one registration. -/
def apply (u : Context κ) : Registration κ → Context κ
  | .conversion c => u.register c
  | .optional s => u.registerOptional s

/-- Takes in registrations, one after the other. -/
def extend (u : Context κ) (rs : List (Registration κ)) : Context κ :=
  rs.foldl apply u

/-- The search from a value of `s` to the type `t`, which is another one. A converter for the pair
goes first, then the way through the view of the target, then the one through the view of the
source. -/
def search (u : Context κ) (d : Dynamic κ) (s t : Ty κ) : Outcome κ :=
  .after (.hop s t) <|
    match u.converters (s, t) with
    | some f => .ran s t f d
    | none =>
      match (u.shapes t).filter fun shape => shape.content ≠ s with
      | some target =>
        if (u.shapes s).any fun shape => (shape.unwrap d).isNone then .found target.empty
        else ((search u d s target.content).restate s t).wrap target
      | none =>
        match u.shapes s with
        | none => .failed (.unsupported s.name t.name)
        | some source =>
          match source.unwrap d with
          | none => .failed (.null t.name)
          | some inner =>
            if source.content = t then .found inner
            else (search u inner source.content t).restate s t
termination_by s.depth + t.depth
decreasing_by
  · exact Nat.add_lt_add_left target.shrinks _
  · exact Nat.add_lt_add_right source.shrinks _

/-- Reads an argument at the type `t`. A value of that very type is read as it is. -/
def convert (u : Context κ) (a : Argument κ) (t : Ty κ) : Outcome κ :=
  match a with
  | .null =>
    .after (.null t) <|
      match u.shapes t with
      | some shape => .found shape.empty
      | none => .failed (.null t.name)
  | .stored d _ => if d.type = t then .found d else u.search d d.type t

end Context

/-- The arguments of one invocation, in order, and the context that reads them. -/
structure Accessor (κ : Type) [UserTypes κ] where
  invocation : Nat
  context : Context κ
  arguments : List (Argument κ)

namespace Accessor

variable [DecidableEq κ]

/-- The argument at an index. -/
def get (a : Accessor κ) (index : Nat) : Except AccessError (Argument κ) :=
  match a.arguments[index]? with
  | some argument => .ok argument
  | none => .error (.outOfBounds index a.arguments.length)

/-- Reports that an argument could not be read. -/
def refuse (a : Accessor κ) (index : Nat) (argument : Argument κ) (t : Ty κ)
    (source : ConversionError) : Logged AccessError where
  value := .conversion index argument.rendering argument.typeName t.name source
  records := [.refused a.invocation index argument t source]

/-- Converts an argument that is at an index. -/
def convert (a : Accessor κ) (index : Nat) (argument : Argument κ) (t : Ty κ) :
    Logged (Except AccessError (Dynamic κ)) :=
  let outcome := a.context.convert argument t
  let attempt : Logged (Except ConversionError (Dynamic κ)) :=
    ⟨outcome.result, .reading a.invocation index t :: outcome.records⟩
  attempt.bind fun
    | .ok d => .pure (.ok d)
    | .error e => (a.refuse index argument t e).map .error

/-- Reads the argument at an index as a value of `t`, which is given as it comes. -/
def readDynamic (a : Accessor κ) (index : Nat) (t : Ty κ) :
    Logged (Except AccessError (Dynamic κ)) :=
  match a.get index with
  | .ok argument => a.convert index argument t
  | .error e => .pure (.error e)

/-- Reads the argument at an index as a value of `t`. A value of another type cannot be given. -/
def read (a : Accessor κ) (index : Nat) (t : Ty κ) : Logged (Except AccessError t.Val) :=
  match a.get index with
  | .error e => .pure (.error e)
  | .ok argument =>
    (a.convert index argument t).bind fun
      | .error e => .pure (.error e)
      | .ok d =>
        match d.downcast? t with
        | some v => .pure (.ok v)
        | none => (a.refuse index argument t (.mistyped t.name)).map .error

/-- Reads the argument at an index as a value of the type that the caller expects. -/
def readInferred (a : Accessor κ) (index : Nat) {t : Ty κ} : Logged (Except AccessError t.Val) :=
  a.read index t

/-- Reads the argument at an index by a getter. -/
def readBy (a : Accessor κ) (g : Getter) (index : Nat) : Logged (Except AccessError g.scalar.Val) :=
  a.readInferred index (t := .scalar g.scalar)

end Accessor

end TypedArguments.Untyped
