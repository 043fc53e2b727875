import Stencil.Proofs.Session.Runs

/-!
# Binding pairs and binding objects

Variables may be given as pairs or as a JSON object.  It makes no difference which: an object that
gives each name its last value among the pairs is bound as the pairs are.  So the order of the pairs
counts only between those of the same name.
-/

namespace Stencil

namespace Bindings

/-- An object of bindings makes these bindings. -/
theorem ofJson?_toJson (bindings : Bindings) : ofJson? bindings.toJson = some bindings := by
  have same : Dictionary.ofPairs bindings.entries = bindings := by
    cases bindings with
    | mk entries sorted => simp only [Dictionary.ofPairs, sorted.ofPairs_eq_self]
  rw [toJson, ofJson?, same]

end Bindings

namespace Processor

theorem setContextJson_toJson (processor : Processor) (now : Moment) (bindings : Bindings) :
    processor.setContextJson now bindings.toJson = .ok (processor.bind now bindings) := by
  rw [setContextJson, Bindings.ofJson?_toJson]

/-- Of a processor only its identifier and its variables have a part in rendering. -/
theorem process_congr {processor other : Processor} (sameId : processor.id = other.id)
    (sameBound : processor.bound? = other.bound?) (text : String) :
    processor.process text = other.process text := by
  cases context : processor.context with
  | none =>
      have none : other.context = none := by
        simpa [bound?, context] using sameBound.symm
      simp only [process, context, none, sameId]
  | some known =>
      have bound : other.bound? = some known.bindings := by
        rw [← sameBound, bound?, context, Option.map_some]
      obtain ⟨found, otherContext, same⟩ := Option.map_eq_some_iff.1 bound
      simp only [process, context, otherContext, sameId, same]

/-- The moment of a binding has no part in rendering. -/
theorem process_bind_congr (processor : Processor) (now later : Moment) (bindings : Bindings)
    (text : String) :
    (processor.bind now bindings).value.process text =
      (processor.bind later bindings).value.process text :=
  process_congr rfl rfl text

end Processor

namespace Session

/-- A binding of pairs may be replaced by that of their object, and nothing changes in a session. -/
theorem run_bindJson (desk : Desk) (now : Moment) (name : String) {pairs : List (String × Json)}
    {object : Bindings} (same : object = Dictionary.ofPairs pairs) (steps : List (Moment × Step)) :
    run desk ((now, .use name (.bindJson object.toJson)) :: steps) =
      run desk ((now, .use name (.bind pairs)) :: steps) := by
  have action (processor : Processor) : (Action.bindJson object.toJson).run now processor =
      (Action.bind pairs).run now processor := by
    simp only [Action.run, processor.setContextJson_toJson, same]
    rfl
  have step : (Step.use name (.bindJson object.toJson)).run now desk =
      (Step.use name (.bind pairs)).run now desk := by
    simp only [Step.run, action]
    rfl
  rw [run_cons, run_cons, reply, reply, step]

end Session

namespace Processor

/-- Pairs and the object that gives each name its last value are bound alike: under the processor's
own identifier, with an event that counts the different names, and with the same results later.  So
pairs of different names may change places. -/
theorem pairs_and_objects_bind_alike (processor : Processor) (now later : Moment)
    {pairs : List (String × Json)} {object : Bindings}
    (lasts : ∀ name, object.get? name = Entries.last? pairs name) :
    (∃ binding, processor.setContextJson later object.toJson = .ok binding ∧
      binding.value = ⟨processor.id, some ⟨object, later, processor.id⟩⟩ ∧
      (processor.setContext now pairs).value =
        ⟨processor.id, some ⟨object, now, processor.id⟩⟩ ∧
      binding.events = [.contextSet processor.id (pairs.map Prod.fst).dedup.length] ∧
      (processor.setContext now pairs).events = binding.events ∧
      ∀ text, (processor.setContext now pairs).value.process text = binding.value.process text) ∧
    (∀ desk name steps,
      Session.run desk ((now, .use name (.bindJson object.toJson)) :: steps) =
        Session.run desk ((now, .use name (.bind pairs)) :: steps)) ∧
    ∀ others : List (String × Json),
      (∀ name, others.filter (fun pair => pair.1 = name) =
        pairs.filter fun pair => pair.1 = name) →
      processor.setContext now others = processor.setContext now pairs := by
  have same : object = Dictionary.ofPairs pairs := Dictionary.eq_ofPairs_iff.2 lasts
  have counted : (pairs.map Prod.fst).dedup.length = object.size := by
    rw [same, Dictionary.size_ofPairs]
  refine ⟨⟨_, processor.setContextJson_toJson later object, rfl, ?_, ?_, ?_, ?_⟩, ?_, ?_⟩
  · rw [setContext, ← same]
    rfl
  · rw [counted]
    rfl
  · rw [setContext, ← same]
    rfl
  · intro text
    rw [setContext, ← same]
    exact processor.process_bind_congr now later object text
  · intro desk name steps
    exact Session.run_bindJson desk now name same steps
  · intro others sameOrder
    rw [setContext, setContext, Dictionary.ofPairs_congr sameOrder]

/-- A name that is bound twice counts once, its last value is rendered, and it may be bound before
or after another name. -/
theorem pairs_and_objects_bind_alike_repeated :
    let processor : Processor := .create (.given "greeting")
    let pairs := [("b", .null), ("a", .string "Ada"), ("b", .string "{x}")]
    let object : Bindings := .ofPairs [("a", .string "Ada"), ("b", .string "{x}")]
    (∀ name, object.get? name = Entries.last? pairs name) ∧
    (∃ binding, processor.setContextJson ⟨2, 0, 0⟩ object.toJson = .ok binding ∧
      binding.events = [.contextSet (.given "greeting") 2] ∧
      (binding.value.process "{b}, {a}").value = .ok "{x}, Ada") ∧
    processor.setContext ⟨1, 0, 0⟩ [("a", .string "Ada"), ("b", .null), ("b", .string "{x}")] =
      processor.setContext ⟨1, 0, 0⟩ pairs := by
  intro processor pairs object
  have lasts (name : String) : object.get? name = Entries.last? pairs name := by
    rw [Dictionary.get?_ofPairs]
    by_cases first : name = "a" <;> by_cases second : name = "b" <;>
      simp_all [pairs, Entries.last?, Entries.get?_cons]
  have rendered : ((processor.setContext ⟨1, 0, 0⟩ pairs).value.process "{b}, {a}").value =
      .ok "{x}, Ada" := by
    decide
  obtain ⟨⟨binding, bound, -, -, events, -, process⟩, -, reordered⟩ :=
    processor.pairs_and_objects_bind_alike ⟨1, 0, 0⟩ ⟨2, 0, 0⟩ lasts
  refine ⟨lasts, ⟨binding, bound, events, ?_⟩, reordered _ ?_⟩
  · rw [← process, rendered]
  · intro name
    by_cases first : name = "a" <;> by_cases second : name = "b" <;> simp_all [pairs, eq_comm]

end Processor

end Stencil
