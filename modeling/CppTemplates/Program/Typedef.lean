import CppTemplates.Program.Basic

/-!
# Seeing through typedefs

A type can be a typedef of another type, directly or by naming a typedef symbol. The questions that
matter to folding and instantiation, such as which class a type is, are asked of the type that
stands behind all typedefs.
-/

namespace CppTemplates

namespace Program

variable (program : Program)

/-- The type that a typedef is another name for. A typedef symbol without a type names nothing
further. -/
def aliased? (type : TypeId) : Option TypeId :=
  match program.type type with
  | .typedefOf inner => some inner
  | .named symbol =>
      match (program.entry symbol).kind with
      | .typedefName => (program.entry symbol).type
      | _ => none
  | _ => none

/-- Follows at most the given number of typedefs. -/
def followTypedefs : Nat → TypeId → TypeId
  | 0, type => type
  | steps + 1, type =>
      match program.aliased? type with
      | some next => followTypedefs steps next
      | none => type

/-- The type behind all typedefs.  A chain of typedefs that does not lead back to itself meets every
type at most once, so their number bounds its length.  A chain that does lead back to itself has no
end: following it does not terminate, no type is behind it, and the one given here, where the count
runs out, means nothing. -/
def stripTypedefs (type : TypeId) : TypeId :=
  program.followTypedefs program.types.size type

/-- The symbol that a type names, typedefs aside. -/
def namedSymbol? (type : TypeId) : Option SymbolId :=
  match program.type (program.stripTypedefs type) with
  | .named symbol => some symbol
  | _ => none

/-- The class type that a type is or names. -/
def actualClass? (type : TypeId) : Option TypeId := do
  let stripped := program.stripTypedefs type
  let candidate ←
    match program.type stripped with
    | .named symbol => (program.entry symbol).type
    | _ => some stripped
  match program.type candidate with
  | .classType _ => some candidate
  | _ => none

def classData? (type : TypeId) : Option ClassType := do
  match program.type (← program.actualClass? type) with
  | .classType data => some data
  | _ => none

/-- Changes the class that a type is or names; other types have nothing to change. -/
def modifyClass (type : TypeId) (change : ClassType → ClassType) : Program :=
  match program.actualClass? type with
  | some actual =>
      program.modifyType actual fun
        | .classType data => .classType (change data)
        | other => other
  | none => program

def functionData? (type : TypeId) : Option FunctionType :=
  match program.type (program.stripTypedefs type) with
  | .functionType data => some data
  | _ => none

def templateData? (type : TypeId) : Option TemplateType :=
  match program.type (program.stripTypedefs type) with
  | .templateType data => some data
  | _ => none

def specialization? (type : TypeId) : Option Specialization :=
  match program.classData? type with
  | some data => data.specialization
  | none => (program.functionData? type).bind (·.specialization)

/-- Whether a type is a class or function that comes from a template. -/
def isSpecialized (type : TypeId) : Bool :=
  (program.specialization? type).isSome

/-- Whether two types denote the same type: behind their typedefs they are one type, equal
fundamental types, or names of one symbol. -/
def sameType (left right : TypeId) : Bool :=
  let left := program.stripTypedefs left
  let right := program.stripTypedefs right
  left == right ||
    match program.type left, program.type right with
    | .builtin left, .builtin right => left == right
    | .named left, .named right => left == right
    | _, _ => false

end Program

end CppTemplates
