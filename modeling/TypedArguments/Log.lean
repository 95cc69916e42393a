/-!
# Log records

What operations report beside their result. A `Logged` value carries its records in the order in
which they arose, and joining two logged steps joins their records.
-/

namespace TypedArguments

/-- How much a record matters. -/
inductive Level where
  | trace
  | debug
  | warn
  deriving DecidableEq

/-- The name of a level in a log line. -/
def Level.name : Level → String
  | .trace => "TRACE"
  | .debug => "DEBUG"
  | .warn => "WARN"

/-- A log record. -/
structure Record where
  level : Level
  message : String
  deriving DecidableEq

/-- The line of a record. -/
def Record.line (r : Record) : String :=
  r.level.name ++ " " ++ r.message

/-- A value and the records that arose on the way to it. -/
structure Logged (α : Type) where
  value : α
  records : List Record

namespace Logged

variable {α β : Type}

/-- A value without records. -/
protected def pure (a : α) : Logged α :=
  ⟨a, []⟩

/-- One step after another, with the records of both. -/
protected def bind (x : Logged α) (f : α → Logged β) : Logged β :=
  ⟨(f x.value).value, x.records ++ (f x.value).records⟩

/-- The same records with another value. -/
protected def map (f : α → β) (x : Logged α) : Logged β :=
  ⟨f x.value, x.records⟩

/-- The value is that of the second part, made from the value of the first. -/
@[simp] theorem value_bind (x : Logged α) (f : α → Logged β) :
    (x.bind f).value = (f x.value).value := rfl

/-- The records of the first part come before those of the second. -/
@[simp] theorem records_bind (x : Logged α) (f : α → Logged β) :
    (x.bind f).records = x.records ++ (f x.value).records := rfl

/-- Steps can be joined in any grouping. -/
theorem bind_assoc {γ : Type} (x : Logged α) (f : α → Logged β) (g : β → Logged γ) :
    (x.bind f).bind g = x.bind fun a => (f a).bind g := by
  simp only [Logged.bind, List.append_assoc]

/-- Mapping a function applies it to the value. -/
@[simp] theorem value_map (f : α → β) (x : Logged α) : (x.map f).value = f x.value := rfl

/-- Mapping a function leaves the records. -/
@[simp] theorem records_map (f : α → β) (x : Logged α) : (x.map f).records = x.records := rfl

end Logged

end TypedArguments
