import Ubb.Library.KeyedRows

set_option autoImplicit false

-- Agents that are at work on something each, numbered in the order they came.
-- Whatever several of them do to one store, they do a stage at a time.
namespace Ubb.Library

structure Agent (Work Stage : Type) where
  id : Nat
  work : Work
  stage : Stage
deriving DecidableEq, Repr

section

variable {Work Stage : Type}

def Agent.to (stage : Stage) (agent : Agent Work Stage) : Agent Work Stage := { agent with stage := stage }

def agentNamed (agents : List (Agent Work Stage)) (id : Nat) : Option (Agent Work Stage) :=
  agents.find? (fun agent => decide (agent.id = id))

def joined (agents : List (Agent Work Stage)) (work : Work) (stage : Stage) : List (Agent Work Stage) :=
  agents ++ [⟨agents.length, work, stage⟩]

def moved (agents : List (Agent Work Stage)) (id : Nat) (stage : Stage) : List (Agent Work Stage) :=
  updateRow Agent.id id (Agent.to stage) agents

def Numbered (agents : List (Agent Work Stage)) : Prop := agents.map Agent.id = List.range agents.length

def counting (holds : Work → Stage → Bool) (agents : List (Agent Work Stage)) : Nat :=
  agents.countP (fun agent => holds agent.work agent.stage)

theorem numbered_distinct (agents : List (Agent Work Stage)) (numbered : Numbered agents) :
    (agents.map Agent.id).Nodup := by
  rw [numbered]
  exact List.nodup_range

theorem joined_numbered (agents : List (Agent Work Stage)) (work : Work) (stage : Stage) (numbered : Numbered agents) :
    Numbered (joined agents work stage) := by
  rw [Numbered, joined, List.map_append, numbered, List.length_append, List.map_singleton, List.length_singleton,
    List.range_succ]

theorem moved_numbered (agents : List (Agent Work Stage)) (id : Nat) (stage : Stage) (numbered : Numbered agents) :
    Numbered (moved agents id stage) := by
  rw [Numbered, moved, update_row_map Agent.id id (Agent.to stage) agents Agent.id (fun _ => rfl), numbered, updateRow,
    List.length_map]

theorem named_mem (agents : List (Agent Work Stage)) (id : Nat) (agent : Agent Work Stage)
    (found : agentNamed agents id = some agent) : agent ∈ agents ∧ agent.id = id :=
  find_key_some Agent.id id agents agent found

theorem mem_joined (agents : List (Agent Work Stage)) (work : Work) (stage : Stage) (agent : Agent Work Stage)
    (member : agent ∈ joined agents work stage) : agent ∈ agents ∨ agent = ⟨agents.length, work, stage⟩ := by
  rcases List.mem_append.mp member with old | new
  · exact .inl old
  · exact .inr (List.mem_singleton.mp new)

theorem mem_moved (agents : List (Agent Work Stage)) (numbered : Numbered agents) (id : Nat) (mover : Agent Work Stage)
    (found : agentNamed agents id = some mover) (stage : Stage) (agent : Agent Work Stage)
    (member : agent ∈ moved agents id stage) : (agent ∈ agents ∧ agent.id ≠ id) ∨ agent = mover.to stage := by
  rcases mem_update_row Agent.id id (Agent.to stage) agents agent member with old | ⟨other, inside, named, rfl⟩
  · exact .inl old
  · obtain ⟨moverInside, moverNamed⟩ := named_mem agents id mover found
    have same := List.inj_on_of_nodup_map (numbered_distinct agents numbered) inside moverInside (named.trans moverNamed.symm)
    exact .inr (by rw [same])

theorem counting_joined (holds : Work → Stage → Bool) (agents : List (Agent Work Stage)) (work : Work) (stage : Stage) :
    counting holds (joined agents work stage) = counting holds agents + (holds work stage).toNat := by
  rw [counting, joined, List.countP_append, List.countP_singleton, counting]
  cases holds work stage <;> rfl

theorem counting_moved (holds : Work → Stage → Bool) (agents : List (Agent Work Stage)) (numbered : Numbered agents)
    (id : Nat) (mover : Agent Work Stage) (found : agentNamed agents id = some mover) (stage : Stage) :
    counting holds (moved agents id stage) + (holds mover.work mover.stage).toNat =
      counting holds agents + (holds mover.work stage).toNat := by
  obtain ⟨inside, named⟩ := named_mem agents id mover found
  exact count_update_row Agent.id id (Agent.to stage) (fun agent => holds agent.work agent.stage) agents mover
    (numbered_distinct agents numbered) inside named

theorem counting_zero_iff (holds : Work → Stage → Bool) (agents : List (Agent Work Stage)) :
    counting holds agents = 0 ↔ ∀ agent ∈ agents, holds agent.work agent.stage = false := by
  rw [counting, List.countP_eq_zero]
  simp only [Bool.not_eq_true]

theorem counting_pos_of (holds : Work → Stage → Bool) (agents : List (Agent Work Stage)) (agent : Agent Work Stage)
    (member : agent ∈ agents) (here : holds agent.work agent.stage = true) : 0 < counting holds agents :=
  List.countP_pos_iff.mpr ⟨agent, member, here⟩

theorem counting_or (first second : Work → Stage → Bool) (agents : List (Agent Work Stage))
    (apart : ∀ work stage, first work stage = true → second work stage = false) :
    counting (fun work stage => first work stage || second work stage) agents =
      counting first agents + counting second agents := by
  induction agents with
  | nil => rfl
  | cons agent rest ih =>
    rw [counting, counting, counting, List.countP_cons, List.countP_cons, List.countP_cons]
    rw [counting, counting, counting] at ih
    rw [ih]
    cases here : first agent.work agent.stage with
    | true =>
      rw [apart agent.work agent.stage here]
      simp
      omega
    | false =>
      cases second agent.work agent.stage <;> simp
      omega

end

end Ubb.Library
