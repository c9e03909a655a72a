import Mathlib.Data.String.Basic
import StoreRpc.Store.DeviceSync

/-!
The states of devices by their names.

A state that is put in takes the place of the one that its name had, and the others stay. So the
last one for a name is what is found for it.
-/

namespace StoreRpc.DeviceSync.States

lemma lookup_cons (name state : String) (rest : States) (n : String) :
    List.lookup n ((name, state) :: rest) = if n = name then some state else rest.lookup n := by
  by_cases h : n = name
  · simp [h]
  · rw [List.lookup_cons, beq_false_of_ne h, if_neg h]

lemma lookup_put (states : States) (name state n : String) :
    (states.put name state).lookup n = if n = name then some state else states.lookup n := by
  induction states with
  | nil => rw [put, lookup_cons]
  | cons entry rest ih =>
    obtain ⟨other, old⟩ := entry
    rw [put]
    by_cases hlt : name < other
    · rw [if_pos hlt, lookup_cons]
    by_cases hsame : name = other
    · subst hsame
      rw [if_neg hlt, if_pos rfl, lookup_cons, lookup_cons]
      split_ifs <;> rfl
    · rw [if_neg hlt, if_neg hsame, lookup_cons, lookup_cons, ih]
      by_cases hname : n = name
      · subst hname
        rw [if_neg hsame, if_pos rfl, if_pos rfl]
      · rw [if_neg hname, if_neg hname]

/-- The names that have a state. -/
def names (states : States) : List String := states.map Prod.fst

lemma mem_names_put {states : States} {name state n : String} :
    n ∈ (states.put name state).names ↔ n = name ∨ n ∈ states.names := by
  induction states with
  | nil => simp [put, names]
  | cons entry rest ih =>
    obtain ⟨other, old⟩ := entry
    simp only [names, List.map_cons, List.mem_cons] at ih ⊢
    rw [put]
    split_ifs with hlt hsame
    · simp only [List.map_cons, List.mem_cons]
    · simp only [List.map_cons, List.mem_cons, hsame, or_self_left]
    · simp only [List.map_cons, List.mem_cons, ih]
      exact or_left_comm

/-- Each name stands once, as they are in ascending order. -/
lemma sorted_put {states : States} (h : states.names.Pairwise (· < ·)) (name state : String) :
    (states.put name state).names.Pairwise (· < ·) := by
  induction states with
  | nil => exact List.pairwise_singleton _ name
  | cons entry rest ih =>
    obtain ⟨other, old⟩ := entry
    obtain ⟨hfirst, hrest⟩ := List.pairwise_cons.mp h
    rw [put]
    split_ifs with hlt hsame
    · refine List.pairwise_cons.mpr ⟨fun n hn => ?_, h⟩
      obtain rfl | hn := List.mem_cons.mp hn
      · exact hlt
      · exact hlt.trans (hfirst n hn)
    · subst hsame
      exact List.pairwise_cons.mpr ⟨hfirst, hrest⟩
    · have hother : other < name := lt_of_le_of_ne (not_lt.mp hlt) (Ne.symm hsame)
      refine List.pairwise_cons.mpr ⟨fun n hn => ?_, ih hrest⟩
      obtain rfl | hn := mem_names_put.mp hn
      · exact hother
      · exact hfirst n hn

/-- Puts what was found into the states, one after another. -/
def putAll (states : States) (found : List (String × String)) : States :=
  found.foldl (fun states entry => states.put entry.1 entry.2) states

/-- What is found last for a name is its state. -/
lemma lookup_putAll (states : States) (found : List (String × String)) (n : String) :
    (states.putAll found).lookup n = (found.reverse.lookup n).or (states.lookup n) := by
  induction found generalizing states with
  | nil => rfl
  | cons entry found ih =>
    obtain ⟨name, state⟩ := entry
    have hput := lookup_put states name state n
    rw [putAll, List.foldl_cons]
    refine (ih (states.put name state)).trans ?_
    rw [hput, List.reverse_cons, List.lookup_append, lookup_cons, List.lookup_nil,
      Option.or_assoc]
    split_ifs <;> rfl

lemma sorted_putAll {states : States} (h : states.names.Pairwise (· < ·))
    (found : List (String × String)) : (states.putAll found).names.Pairwise (· < ·) := by
  induction found generalizing states with
  | nil => exact h
  | cons entry found ih => exact ih (sorted_put h entry.1 entry.2)

end StoreRpc.DeviceSync.States
