import GraphServe.Logging.Directive

/-!
# The order of directives

The more specific of two directives comes later in the order: the one with the longer target, then
the one that says more about spans and fields. Names decide between directives that are alike. A list
in descending order keeps one of several equal items, the last that was placed (`mem_place_self`).
-/

namespace GraphServe

namespace LogOrder

/-- The order of values that may be missing. A missing one comes first. -/
def option (order : α → α → Ordering) : Option α → Option α → Ordering
  | none, none => .eq
  | none, some _ => .lt
  | some _, none => .gt
  | some a, some b => order a b

/-- The order of texts that may be missing. -/
def text (a b : Option String) : Ordering := option (fun a b => compareOfLessAndEq a b) a b

/-- The order of texts by their stored size. A missing one comes first. -/
def size (a b : Option String) : Ordering :=
  option (fun a b => compareOfLessAndEq a.utf8ByteSize b.utf8ByteSize) a b

/-- The order of values by whether they are there. -/
def presence (a b : Option α) : Ordering := compareOfLessAndEq a.isSome.toNat b.isSome.toNat

/-- Puts an item into a list in descending order. It replaces an equal one. -/
def place (order : α → α → Ordering) (item : α) : List α → List α
  | [] => [item]
  | other :: rest =>
    match order item other with
    | .gt => item :: other :: rest
    | .eq => item :: rest
    | .lt => other :: place order item rest

theorem mem_place_self (order : α → α → Ordering) (item : α) (list : List α) :
    item ∈ place order item list := by
  induction list with
  | nil => exact List.mem_singleton.2 rfl
  | cons other rest ih =>
    unfold place
    split
    · exact List.mem_cons_self
    · exact List.mem_cons_self
    · exact List.mem_cons_of_mem _ ih

/-- Nothing but the item is added. -/
theorem mem_of_mem_place {order : α → α → Ordering} {item a : α} {list : List α}
    (h : a ∈ place order item list) : a = item ∨ a ∈ list := by
  induction list with
  | nil => exact .inl (List.mem_singleton.1 h)
  | cons other rest ih =>
    unfold place at h
    split at h
    · exact List.mem_cons.1 h
    · exact (List.mem_cons.1 h).imp_right (List.mem_cons_of_mem _)
    · cases List.mem_cons.1 h with
      | inl same => exact .inr (same ▸ List.mem_cons_self)
      | inr later => exact (ih later).imp_right (List.mem_cons_of_mem _)

/-- The items of a list in descending order. Of equal ones the last is kept. -/
def placeAll (order : α → α → Ordering) (items : List α) : List α :=
  items.foldl (fun list item => place order item list) []

end LogOrder

/-! ## Kinds of directives -/

/-- A level for a target and the places that have a field, decided by nothing else. -/
structure StaticDirective where
  target : Option String
  field : Option String
  level : LogLevel
deriving DecidableEq, Repr

namespace StaticDirective

/-- The order of static directives: by the size of the target, by whether there is a field, and then
by the names. -/
def order (a b : StaticDirective) : Ordering :=
  ((LogOrder.size a.target b.target).then (LogOrder.presence a.field b.field)).then
    ((LogOrder.text a.target b.target).then (LogOrder.text a.field b.field))

/-- The text of a static directive. -/
def render (d : StaticDirective) : String :=
  LogDirective.render ⟨d.target, none, d.field.map (⟨·, none⟩), d.level⟩

end StaticDirective

namespace FieldMatch

/-- The order of fields: those with values come last, and then by name and value. -/
def order (a b : FieldMatch) : Ordering :=
  ((LogOrder.presence a.value b.value).then (compareOfLessAndEq a.name b.name)).then
    (LogOrder.option FieldValue.order a.value b.value)

end FieldMatch

namespace LogDirective

/-- Whether a directive depends on what is running. -/
def isDynamic (d : LogDirective) : Bool := d.span.isSome || d.field.isSome

/-- The directive that is decided once, unless it is about a span or the value of a field. -/
def static? (d : LogDirective) : Option StaticDirective :=
  match d.span, d.field with
  | none, none => some ⟨d.target, none, d.level⟩
  | none, some ⟨name, none⟩ => some ⟨d.target, some name, d.level⟩
  | _, _ => none

/-- The order of dynamic directives: by the size of the target, by whether there is a span and a
field, and then by the names. -/
def order (a b : LogDirective) : Ordering :=
  (((LogOrder.size a.target b.target).then (LogOrder.presence a.span b.span)).then
    (LogOrder.presence a.field b.field)).then
      (((LogOrder.text a.target b.target).then (LogOrder.text a.span b.span)).then
        (LogOrder.option FieldMatch.order a.field b.field))

end LogDirective

end GraphServe
