import AgentSentinel.Python.Exceptions

/-!
# AgentSentinel.Python.Calls

How a call finds its method and how the arguments find their parameters: by position
first, then by keyword, and every parameter without a default must have got one. No
annotation is looked at.
-/

namespace AgentSentinel

/-- A parameter that takes its argument by position or by keyword. -/
structure PyParam where
  name : PyStr
  hasDefault : Bool := false

/-- A method: the name it goes by in error messages, and its parameters after `self`. -/
structure PyMethod where
  qualname : PyStr
  params : List PyParam

namespace PyMethod

variable {α : Type} (m : PyMethod)

/-- The class of every error in binding arguments, with the method's name in the text. -/
def typeError (text : PyStr) : PyExc := ⟨.typeError, m.qualname ++ py "() " ++ text⟩

/-- Parameters, each with the argument it has so far. -/
abbrev Slots (α : Type) := List (PyParam × Option α)

/-- Hand out the keyword arguments one after the other. -/
def bindKeywords : List (PyStr × α) → Slots α → Result (Slots α)
  | [], slots => .ok slots
  | (keyword, a) :: keywords, slots =>
    match slots.find? fun slot => slot.1.name == keyword with
    | none => .error (m.typeError
        (py "got an unexpected keyword argument '" ++ keyword ++ py "'"))
    | some (_, some _) => .error (m.typeError
        (py "got multiple values for argument '" ++ keyword ++ py "'"))
    | some (_, none) =>
      bindKeywords keywords (slots.map fun slot =>
        if slot.1.name == keyword then (slot.1, some a) else slot)

/-- Bind the arguments of a call; `none` stands for a parameter's default. -/
def bind (args : List α) (keywords : List (PyStr × α)) : Result (List (Option α)) := do
  let slots ← m.bindKeywords keywords (m.params.zip (args.map some ++
    List.replicate (m.params.length - args.length) none))
  if m.params.length < args.length then
    .error (m.typeError (py "takes " ++ natText (m.params.length + 1) ++
      py " positional arguments but " ++ natText (args.length + 1) ++ py " were given"))
  else
    match slots.filter fun slot => slot.2.isNone && !slot.1.hasDefault with
    | [] => return slots.map Prod.snd
    | missing => .error (m.typeError (py "missing " ++ natText missing.length ++
        py " required positional arguments: " ++
        PyStr.join (py ", ") (missing.map fun slot => slot.1.name)))

variable {m} {keyword : PyStr} {a : α} {args : List α} {keywords : List (PyStr × α)}

/-- A call whose first keyword no parameter has is turned away. -/
theorem bind_unexpected (hkeyword : ∀ p ∈ m.params, p.name ≠ keyword) :
    m.bind args ((keyword, a) :: keywords) = .error (m.typeError
      (py "got an unexpected keyword argument '" ++ keyword ++ py "'")) := by
  have hnone : ∀ rest : List (Option α),
      (m.params.zip rest).find? (fun slot => slot.1.name == keyword) = none := by
    intro rest
    rw [List.find?_eq_none]
    intro slot hslot
    simpa using hkeyword slot.1 (List.of_mem_zip hslot).1
  simp [bind, bindKeywords, hnone, Bind.bind, Except.bind]

end PyMethod

/-- Look a method up in what a class defines. -/
def findMethod (className : PyStr) (methods : List (PyStr × PyMethod)) (name : PyStr) :
    Result PyMethod :=
  match methods.lookup name with
  | some m => .ok m
  | none => .error ⟨.other (py "AttributeError"),
      py "'" ++ className ++ py "' object has no attribute '" ++ name ++ py "'"⟩

end AgentSentinel
