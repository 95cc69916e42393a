import TypedArguments.Conversion.Registry
import TypedArguments.Log

/-!
# Conversion contexts

A context is a registry of conversions together with the types whose optional types are
*nullable*: for each of them the registry has the pair of conversions into the optional type and
out of it. A context grows by registrations, one at a time; each is a conversion, or a type whose
optional type becomes nullable.
-/

namespace TypedArguments

variable {κ : Type} [DecidableEq κ] [UserTypes κ]

/-- Conversions, and the contents of the nullable types. -/
structure Context (κ : Type) [DecidableEq κ] [UserTypes κ] where
  registry : Registry κ
  optionals : List (Ty κ)
  nodup : optionals.Nodup
  boxed : ∀ s ∈ optionals, registry.contains s (.option s) = true
  unboxed : ∀ s ∈ optionals, registry.contains (.option s) s = true

/-- What a context can be told to know. -/
inductive Registration (κ : Type) [UserTypes κ] where
  /-- A conversion. -/
  | conversion (c : Conversion κ)
  /-- The optional type over `s` is nullable. -/
  | optional (s : Ty κ)

namespace Context

/-- A context that knows nothing. -/
def empty : Context κ where
  registry := .empty
  optionals := []
  nodup := List.nodup_nil
  boxed := by simp
  unboxed := by simp

/-- The converter registered for a pair of types. -/
def find? (ctx : Context κ) (s t : Ty κ) : Option (Converter s t) :=
  ctx.registry.find? s t

/-- A conversion is registered for a pair of types. -/
def contains (ctx : Context κ) (s t : Ty κ) : Bool :=
  ctx.registry.contains s t

/-- The number of conversions. -/
def size (ctx : Context κ) : Nat :=
  ctx.registry.size

/-- The context as it is shown: how much it knows. -/
def debug (ctx : Context κ) : String :=
  "ConversionContext \x7b converters: " ++ String.ofList (Digits.ofNat ctx.size)
    ++ ", optionals: " ++ String.ofList (Digits.ofNat ctx.optionals.length) ++ " \x7d"

/-- The context with one more conversion. -/
def insert (ctx : Context κ) (c : Conversion κ) : Context κ where
  registry := ctx.registry.insert c
  optionals := ctx.optionals
  nodup := ctx.nodup
  boxed s h := Registry.contains_insert (ctx.boxed s h)
  unboxed s h := Registry.contains_insert (ctx.unboxed s h)

/-- The record of a conversion that takes the place of another. -/
def replaced (c : Conversion κ) : Record :=
  ⟨.debug, "replaced conversion from `" ++ c.source.name ++ "` to `" ++ c.target.name ++ "`"⟩

/-- Registers a conversion. -/
def register (ctx : Context κ) (c : Conversion κ) : Logged (Context κ) where
  value := ctx.insert c
  records := if ctx.contains c.source c.target then [replaced c] else []

/-- The types with `s` among them, once. -/
def addOptional (s : Ty κ) (ss : List (Ty κ)) : List (Ty κ) :=
  if s ∈ ss then ss else s :: ss

omit [UserTypes κ] in
/-- The list has the new type and those of before. -/
theorem mem_addOptional {s u : Ty κ} {ss : List (Ty κ)} :
    u ∈ addOptional s ss ↔ u = s ∨ u ∈ ss := by
  unfold addOptional
  split
  · exact ⟨.inr, fun h => h.elim (· ▸ ‹_›) id⟩
  · exact List.mem_cons

omit [UserTypes κ] in
/-- No type is listed twice. -/
theorem nodup_addOptional {s : Ty κ} {ss : List (Ty κ)} (h : ss.Nodup) :
    (addOptional s ss).Nodup := by
  unfold addOptional
  split
  · exact h
  · exact List.nodup_cons.2 ⟨‹_›, h⟩

/-- The context in which the optional type over `s` is nullable. -/
def insertOptional (ctx : Context κ) (s : Ty κ) : Context κ where
  registry := (ctx.registry.insert (.box s)).insert (.unbox s)
  optionals := addOptional s ctx.optionals
  nodup := nodup_addOptional ctx.nodup
  boxed u h := by
    apply Registry.contains_insert
    rcases mem_addOptional.1 h with rfl | h
    · exact Registry.contains_insert_self _ (Conversion.box u)
    · exact Registry.contains_insert (ctx.boxed u h)
  unboxed u h := by
    rcases mem_addOptional.1 h with rfl | h
    · exact Registry.contains_insert_self _ (Conversion.unbox u)
    · exact Registry.contains_insert (Registry.contains_insert (ctx.unboxed u h))

/-- Makes the optional type over `s` nullable. Of the pair of conversions that this registers, the
one into the optional type comes first. -/
def registerOptional (ctx : Context κ) (s : Ty κ) : Logged (Context κ) where
  value := ctx.insertOptional s
  records := (ctx.register (.box s)).records
    ++ ((ctx.insert (.box s)).register (.unbox s)).records

/-- Takes in one registration. -/
def apply (ctx : Context κ) : Registration κ → Logged (Context κ)
  | .conversion c => ctx.register c
  | .optional s => ctx.registerOptional s

/-- Takes in registrations, one after the other. -/
def extend (ctx : Context κ) : List (Registration κ) → Logged (Context κ)
  | [] => .pure ctx
  | r :: rs => (ctx.apply r).bind fun next => next.extend rs

/-- Registrations in two parts. -/
theorem extend_append (ctx : Context κ) (rs ss : List (Registration κ)) :
    ctx.extend (rs ++ ss) = (ctx.extend rs).bind fun next => next.extend ss := by
  induction rs generalizing ctx with
  | nil => simp [extend, Logged.pure, Logged.bind]
  | cons r rs ih => simp [extend, ih, Logged.bind, List.append_assoc]

/-- The value that stands for nothing at a nullable type. -/
def absent? (ctx : Context κ) : (t : Ty κ) → Option t.Val
  | .base _ => none
  | .option s => if s ∈ ctx.optionals then some none else none

/-- The null argument can be asked for as `t`: the type is nullable. -/
def acceptsNull (ctx : Context κ) (t : Ty κ) : Bool :=
  (ctx.absent? t).isSome

/-- The value is the one that stands for nothing at a nullable type. -/
def isAbsent (ctx : Context κ) : (s : Ty κ) → s.Val → Bool
  | .base _, _ => false
  | .option s, v => v.isNone && s ∈ ctx.optionals

end Context

end TypedArguments
