import Mathlib.Data.List.Induction
import PairwiseId.Mapper.Registry
import PairwiseId.Proofs.KeyMap

/- Registering keeps the tables of a registry in step: what is run on a token of any kind belongs to
   the mapper that gives the priority, and of several mappers with one id it is the last one. -/
namespace PairwiseId

set_option autoImplicit false

theorem Outcome.eq_ok {C : Type} (outcome : Outcome C) (accepted : outcome.refusal = none) :
    outcome = .ok outcome.claims := by
  rw [ok, ← accepted]

namespace Registry

def ofMappers (mappers : List Mapper) : Registry := mappers.foldl register empty

-- Of the mappers that were registered under one id only the last one is left.
def latest? (mappers : List Mapper) (mapperType : String) : Option Mapper :=
  (mappers.filter fun m => m.id == mapperType).getLast?

-- The tables for the tokens hold the mappers of the main table and no others.
def InStep (r : Registry) : Prop :=
  ∀ (s : Surface) (mapperType : String),
    r.transform? s mapperType = (r.get? mapperType).map fun mapper => mapper.transform s

theorem get_register (r : Registry) (mapper : Mapper) (mapperType : String) :
    (r.register mapper).get? mapperType = if mapper.id = mapperType then some mapper else r.get? mapperType := by
  simp only [register, get?, KeyMap.get_put, eq_comm]

theorem transform_register (r : Registry) (mapper : Mapper) (s : Surface) (mapperType : String) :
    (r.register mapper).transform? s mapperType =
      if mapper.id = mapperType then some (mapper.transform s) else r.transform? s mapperType := by
  cases s <;> simp only [register, transform?, KeyMap.get_put, eq_comm]

theorem empty_in_step : empty.InStep := by
  intro s mapperType
  cases s <;> rfl

theorem register_in_step (r : Registry) (mapper : Mapper) (before : r.InStep) : (r.register mapper).InStep := by
  intro s mapperType
  rw [transform_register, get_register]
  split
  · rfl
  · exact before s mapperType

theorem register_all_in_step (mappers : List Mapper) (r : Registry) (before : r.InStep) :
    (mappers.foldl register r).InStep := by
  induction mappers generalizing r with
  | nil => exact before
  | cons mapper rest ih => exact ih (r.register mapper) (register_in_step r mapper before)

theorem of_mappers_in_step (mappers : List Mapper) : (ofMappers mappers).InStep :=
  register_all_in_step mappers empty empty_in_step

theorem get_of_mappers (mappers : List Mapper) (mapperType : String) :
    (ofMappers mappers).get? mapperType = latest? mappers mapperType := by
  induction mappers using List.reverseRecOn with
  | nil => rfl
  | append_singleton earlier mapper ih =>
      rw [ofMappers, List.foldl_append, List.foldl_cons, List.foldl_nil, get_register, latest?,
        List.filter_append]
      by_cases same : mapper.id = mapperType
      · simp [same]
      · have skipped : [mapper].filter (fun m => m.id == mapperType) = [] := by simp [same]
        rw [if_neg same, skipped, List.append_nil]
        exact ih

section Run

variable (r : Registry) (inStep : r.InStep) (s : Surface) (context : IssueContext) (config : MapperConfig)
  (rest : List MapperConfig) (claims : s.Claims)

include inStep

theorem run_unknown (unknown : r.get? config.mapperType = none) :
    run r s context (config :: rest) claims = run r s context rest claims := by
  simp only [run, inStep s config.mapperType, unknown, Option.map_none]

theorem run_known (mapper : Mapper) (found : r.get? config.mapperType = some mapper) :
    run r s context (config :: rest) claims =
      match (mapper.transform s context config claims).refusal with
      | none => run r s context rest (mapper.transform s context config claims).claims
      | some _ => mapper.transform s context config claims := by
  have known : r.transform? s config.mapperType = some (mapper.transform s) := by
    rw [inStep s config.mapperType, found, Option.map_some]
  cases refused : (mapper.transform s context config claims).refusal <;>
    simp only [run, known, refused]

-- Where a run succeeds, its first mapper has succeeded, and so has the rest on what it left.
theorem run_known_ok (mapper : Mapper) (found : r.get? config.mapperType = some mapper) (after : s.Claims)
    (done : run r s context (config :: rest) claims = .ok after) :
    ∃ next, mapper.transform s context config claims = .ok next ∧ run r s context rest next = .ok after := by
  rw [run_known r inStep s context config rest claims mapper found] at done
  cases refused : (mapper.transform s context config claims).refusal with
  | none =>
      rw [refused] at done
      exact ⟨_, Outcome.eq_ok _ refused, done⟩
  | some refusal =>
      rw [refused] at done
      cases refused.symm.trans (congrArg Outcome.refusal done)

end Run

end Registry

end PairwiseId
