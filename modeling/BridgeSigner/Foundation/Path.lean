import Mathlib.Data.List.DropRight
import BridgeSigner.Foundation.Bytes

/-
  Slash-separated paths: the lexical functions `Clean`, `Dir`
  and `Join` of path/filepath on Unix, and the place in the
  file tree that a path denotes where no directory on it is a
  symbolic link.

  A place is the list of names on the way to it, the last
  name first.

  Key definitions include:
    * `Path.clean`, `Path.dir`, `Path.join`
    * `Path.resolve`

  Main results:
    * `Path.resolve_clean`
    * `Path.resolve_sibling`
-/

------------------------------------------------------------
-- The Functions
------------------------------------------------------------

namespace BridgeSigner

namespace Path

def slash : UInt8 := 47

def dot : Bytes := [46]

def dotdot : Bytes := [46, 46]

/- What stands between the slashes. -/
def elements
    (p : Bytes) : List Bytes :=
  p.splitOn slash

def rooted
    (p : Bytes) : Bool :=
  p.head? == some slash

/-
  One element of a path that is being cleaned. An inner `..`
  goes away with the name before it, and so does a `..` at
  the root.
-/
def push
    (rooted : Bool)
    (stack : List Bytes)
    (e : Bytes) : List Bytes :=
  if e = [] ∨ e = dot then
    stack
  else if e = dotdot then
    match stack with
    | [] => if rooted then [] else [dotdot]
    | top :: rest =>
        if top = dotdot then dotdot :: stack else rest
  else
    e :: stack

/- The elements that are left of a path. -/
def names
    (p : Bytes) : List Bytes :=
  ((elements p).foldl (push (rooted p)) []).reverse

/- The shortest path that means the same. -/
def clean
    (p : Bytes) : Bytes :=
  if rooted p then
    slash :: [slash].intercalate (names p)
  else if names p = [] then
    dot
  else
    [slash].intercalate (names p)

/- Everything up to the last slash, with the slash. -/
def upToSlash
    (p : Bytes) : Bytes :=
  p.rdropWhile (· != slash)

/- Everything after the last slash. -/
def afterSlash
    (p : Bytes) : Bytes :=
  p.rtakeWhile (· != slash)

def dir
    (p : Bytes) : Bytes :=
  clean (upToSlash p)

/- Elements that are empty at the front are left out. -/
def join
    (elems : List Bytes) : Bytes :=
  match elems.dropWhile (· == []) with
  | [] => []
  | rest => clean ([slash].intercalate rest)

/- Go on by one element. -/
def enter
    (place : List Bytes)
    (e : Bytes) : List Bytes :=
  if e = [] ∨ e = dot then
    place
  else if e = dotdot then
    place.tail
  else
    e :: place

/- The place a path denotes, from the working directory. -/
def resolve
    (cwd : List Bytes)
    (p : Bytes) : List Bytes :=
  (elements p).foldl enter (if rooted p then [] else cwd)

example :
    clean (ascii "/a//b/./../c/../../../d/") =
      ascii "/d" := by
  decide +kernel

example :
    join [dir (ascii "../a/x.json"), ascii "y.json"] =
      ascii "../a/y.json" := by
  decide +kernel

end Path

end BridgeSigner

------------------------------------------------------------
-- A Clean Path Denotes The Same Place
------------------------------------------------------------

namespace BridgeSigner

namespace Path

variable {cwd place : List Bytes}
variable {p e : Bytes}

/- An element that may stand in a clean path. -/
structure Proper
    (e : Bytes) : Prop where
  nonempty : e ≠ []
  notDot : e ≠ dot
  noSlash : slash ∉ e

theorem enter_proper
    (hProper : Proper e)
    (hName : e ≠ dotdot) :
    enter place e = e :: place := by
  simp [enter, hProper.nonempty, hProper.notDot, hName]

theorem noSlash_of_mem_elements
    (hMem : e ∈ elements p) :
    slash ∉ e := by
  induction p generalizing e with
  | nil =>
      rw [elements, List.splitOn_nil] at hMem
      rw [List.mem_singleton.mp hMem]
      exact List.not_mem_nil
  | cons b p ih =>
      rw [elements, List.splitOn_cons_eq_if_modifyHead]
        at hMem
      split at hMem
      · rcases List.mem_cons.mp hMem with rfl | hMem
        · exact List.not_mem_nil
        · exact ih hMem
      · rename_i hSlash
        have hNe : slash ≠ b := by
          intro h
          exact hSlash (beq_of_eq h.symm)
        cases hSplit : p.splitOn slash with
        | nil => exact absurd hSplit (List.splitOn_ne_nil _ _)
        | cons first rest =>
            rw [hSplit, List.modifyHead_cons] at hMem
            have hElements : elements p = first :: rest :=
              hSplit
            rw [hElements] at ih
            rcases List.mem_cons.mp hMem with rfl | hMem
            · intro hIn
              rcases List.mem_cons.mp hIn with h | h
              · exact hNe h
              · exact ih List.mem_cons_self h
            · exact ih (List.mem_cons_of_mem _ hMem)

theorem push_proper
    {r : Bool}
    {stack : List Bytes}
    (hStack : ∀ x ∈ stack, Proper x)
    (hSlash : slash ∉ e) :
    ∀ x ∈ push r stack e, Proper x := by
  have hUp : Proper dotdot := by
    refine ⟨?_, ?_, ?_⟩ <;> decide
  unfold push
  split
  · exact hStack
  · rename_i hPlain
    rw [not_or] at hPlain
    split
    · split
      · split
        · exact hStack
        · intro x hx
          rw [List.mem_singleton.mp hx]
          exact hUp
      · split
        · intro x hx
          rcases List.mem_cons.mp hx with rfl | hx
          · exact hUp
          · exact hStack x hx
        · intro x hx
          exact hStack x (List.mem_cons_of_mem _ hx)
    · intro x hx
      rcases List.mem_cons.mp hx with rfl | hx
      · exact ⟨hPlain.1, hPlain.2, hSlash⟩
      · exact hStack x hx

/- To go on by an element is to go on by the stack. -/
theorem walk_push
    {r : Bool}
    {stack : List Bytes}
    (hStart : r = true → place = [])
    (hStack : ∀ x ∈ stack, Proper x) :
    (push r stack e).reverse.foldl enter place =
      enter (stack.reverse.foldl enter place) e := by
  unfold push
  split
  · rename_i hSkip
    rw [enter, if_pos hSkip]
  · split
    · rename_i hUp
      subst hUp
      cases stack with
      | nil =>
          cases r with
          | true =>
              rw [hStart rfl]
              rfl
          | false => rfl
      | cons top rest =>
          simp only
          split
          · simp
          · rename_i hTop
            rw [List.reverse_cons, List.foldl_append,
              List.foldl_cons, List.foldl_nil,
              enter_proper (hStack top List.mem_cons_self)
                hTop]
            rfl
    · simp

/- The names of a path lead to where the path leads. -/
theorem walk_names
    (p : Bytes)
    (place : List Bytes)
    (hStart : rooted p = true → place = []) :
    (∀ x ∈ names p, Proper x) ∧
      (names p).foldl enter place =
        (elements p).foldl enter place := by
  have hWalk :
      ∀ (es stack : List Bytes),
        (∀ x ∈ es, slash ∉ x) →
        (∀ x ∈ stack, Proper x) →
        (∀ x ∈ es.foldl (push (rooted p)) stack, Proper x) ∧
          (es.foldl (push (rooted p)) stack).reverse.foldl
              enter place =
            es.foldl enter
              (stack.reverse.foldl enter place) := by
    intro es
    induction es with
    | nil =>
        intro stack _ hStack
        exact ⟨hStack, rfl⟩
    | cons e es ih =>
        intro stack hEs hStack
        have hPush :=
          push_proper (r := rooted p) hStack
            (hEs e List.mem_cons_self)
        have hRest := ih (push (rooted p) stack e)
          (fun x hx => hEs x (List.mem_cons_of_mem _ hx))
          hPush
        rw [walk_push hStart hStack] at hRest
        exact hRest
  have hAll := hWalk (elements p) []
    (fun x hx => noSlash_of_mem_elements hx)
    (fun x hx => absurd hx List.not_mem_nil)
  refine ⟨?_, hAll.2⟩
  intro x hx
  exact hAll.1 x (List.mem_reverse.mp hx)

theorem walk_intercalate
    {ns : List Bytes}
    (hNames : ∀ x ∈ ns, Proper x) :
    (elements ([slash].intercalate ns)).foldl enter place =
      ns.foldl enter place := by
  by_cases hNil : ns = []
  · rw [hNil]
    rfl
  · rw [elements, List.splitOn_intercalate slash
      (fun x hx => (hNames x hx).noSlash) hNil]

theorem rooted_intercalate
    {ns : List Bytes}
    (hNames : ∀ x ∈ ns, Proper x) :
    rooted ([slash].intercalate ns) = false := by
  cases ns with
  | nil => rfl
  | cons n ns =>
      have hn := hNames n List.mem_cons_self
      cases n with
      | nil => exact absurd rfl hn.nonempty
      | cons b n =>
          have hb : b ≠ slash := by
            rintro rfl
            exact hn.noSlash List.mem_cons_self
          cases ns with
          | nil => simp [rooted, List.intercalate, hb]
          | cons m ns => simp [rooted, List.intercalate, hb]

theorem elements_slash
    (p : Bytes) :
    elements (slash :: p) = [] :: elements p :=
  List.splitOn_append_cons_self_of_not_mem
    List.not_mem_nil p

theorem resolve_clean
    (cwd : List Bytes)
    (p : Bytes) :
    resolve cwd (clean p) = resolve cwd p := by
  by_cases hRoot : rooted p = true
  · have hWalk := walk_names p [] (fun _ => rfl)
    have hRooted :
        rooted (slash :: [slash].intercalate (names p)) =
          true :=
      rfl
    rw [resolve, resolve, clean, if_pos hRoot,
      if_pos hRoot, if_pos hRooted, elements_slash,
      List.foldl_cons]
    exact (walk_intercalate hWalk.1).trans hWalk.2
  · have hWalk := walk_names p cwd
      (fun h => absurd h hRoot)
    by_cases hNone : names p = []
    · rw [hNone] at hWalk
      rw [clean, if_neg hRoot, if_pos hNone]
      unfold resolve
      rw [if_neg hRoot, ← hWalk.2]
      rfl
    · have hPlain : ¬rooted
          ([slash].intercalate (names p)) = true := by
        rw [rooted_intercalate hWalk.1]
        exact Bool.false_ne_true
      rw [resolve, resolve, clean, if_neg hRoot,
        if_neg hNone, if_neg hRoot, if_neg hPlain]
      exact (walk_intercalate hWalk.1).trans hWalk.2

end Path

end BridgeSigner

------------------------------------------------------------
-- Siblings
------------------------------------------------------------

namespace BridgeSigner

namespace Path

variable {p name : Bytes}

/- A path goes on below the directory in front of it. -/
theorem resolve_below
    (cwd : List Bytes)
    (d : Bytes)
    (hName : slash ∉ name) :
    resolve cwd (d ++ slash :: name) =
      enter (resolve cwd (d ++ [slash])) name := by
  have hRooted :
      rooted (d ++ slash :: name) = rooted (d ++ [slash]) := by
    cases d with
    | nil => rfl
    | cons b d => rfl
  rw [resolve, resolve, hRooted, elements, elements,
    List.splitOn_append_cons_self,
    List.splitOn_append_cons_self,
    List.splitOn_eq_singleton hName, List.foldl_append,
    List.foldl_append]
  rfl

theorem resolve_slash
    (cwd : List Bytes)
    {d : Bytes}
    (hDir : d ≠ []) :
    resolve cwd (d ++ [slash]) = resolve cwd d := by
  have hRooted : rooted (d ++ [slash]) = rooted d := by
    cases d with
    | nil => exact absurd rfl hDir
    | cons b d => rfl
  rw [resolve, resolve, hRooted, elements,
    List.splitOn_append_cons_self, List.foldl_append]
  rfl

theorem resolve_name
    (cwd : List Bytes)
    (hName : slash ∉ name) :
    resolve cwd name = enter cwd name := by
  have hRooted : ¬rooted name = true := by
    cases name with
    | nil => exact Bool.false_ne_true
    | cons b name =>
        intro hRoot
        have hb : b = slash := by
          simpa [rooted] using hRoot
        exact hName (hb ▸ List.mem_cons_self)
  rw [resolve, if_neg hRooted, elements,
    List.splitOn_eq_singleton hName]
  rfl

theorem clean_ne_nil
    (p : Bytes) :
    clean p ≠ [] := by
  unfold clean
  split
  · exact List.cons_ne_nil _ _
  · rename_i hRoot
    split
    · exact List.cons_ne_nil _ _
    · rename_i hNames
      intro hNil
      -- The empty path has one element, which is no name.
      have hProper := (walk_names p [] (fun _ => rfl)).1
      have hSplit := List.splitOn_intercalate slash
        (fun x hx => (hProper x hx).noSlash) hNames
      rw [hNil, List.splitOn_nil] at hSplit
      rw [← hSplit] at hProper
      exact (hProper [] List.mem_cons_self).nonempty rfl

/- The part before the last element is empty or ends so. -/
theorem upToSlash_cases
    (p : Bytes) :
    upToSlash p = [] ∨ ∃ d, upToSlash p = d ++ [slash] := by
  by_cases hNil : upToSlash p = []
  · exact Or.inl hNil
  · have hLast := List.rdropWhile_last_not _ p hNil
    have hSlash : (upToSlash p).getLast hNil = slash := by
      simpa [upToSlash] using hLast
    refine Or.inr ⟨(upToSlash p).dropLast, ?_⟩
    rw [← hSlash, List.dropLast_append_getLast]

/- The last element of a path, below the part before it. -/
theorem resolve_afterSlash
    (cwd : List Bytes)
    (p : Bytes) :
    resolve cwd p =
      enter (resolve cwd (upToSlash p)) (afterSlash p) := by
  have hName : slash ∉ afterSlash p := by
    intro hMem
    have hNot := List.mem_rtakeWhile_imp hMem
    simp at hNot
  calc
    resolve cwd p =
        resolve cwd (upToSlash p ++ afterSlash p) :=
      congrArg (resolve cwd)
        List.rdropWhile_append_rtakeWhile.symm
    _ = enter (resolve cwd (upToSlash p)) (afterSlash p) := by
      rcases upToSlash_cases p with hNil | ⟨d, hDir⟩
      · rw [hNil]
        exact resolve_name cwd hName
      · rw [hDir, List.append_assoc]
        exact resolve_below cwd d hName

theorem resolve_join
    (cwd : List Bytes)
    {d : Bytes}
    (hDir : d ≠ [])
    (hName : slash ∉ name) :
    resolve cwd (join [d, name]) =
      enter (resolve cwd d) name := by
  have hJoin :
      join [d, name] = clean (d ++ slash :: name) := by
    simp [join, hDir, List.intercalate]
  rw [hJoin, resolve_clean, resolve_below cwd d hName,
    resolve_slash cwd hDir]

theorem enter_eq_cons_iff
    {place : List Bytes}
    {e : Bytes}
    (hProper : Proper name)
    (hName : name ≠ dotdot) :
    enter place e = name :: place ↔ e = name := by
  have hLonger : ∀ rest : List Bytes,
      rest.length ≤ place.length → rest ≠ name :: place := by
    intro rest hLe hEq
    rw [hEq, List.length_cons] at hLe
    omega
  refine ⟨?_, ?_⟩
  · unfold enter
    split
    · intro h
      exact absurd h (hLonger place (le_refl _))
    · split
      · intro h
        refine absurd h (hLonger place.tail ?_)
        rw [List.length_tail]
        exact Nat.sub_le _ _
      · intro h
        exact (List.cons.inj h).1
  · rintro rfl
    exact enter_proper hProper hName

/- A file in the directory of a path. -/
theorem resolve_beside
    (cwd : List Bytes)
    (p : Bytes)
    (hProper : Proper name)
    (hName : name ≠ dotdot) :
    resolve cwd (join [dir p, name]) =
      name :: resolve cwd (upToSlash p) := by
  rw [dir,
    resolve_join cwd (clean_ne_nil _) hProper.noSlash,
    resolve_clean, enter_proper hProper hName]

/-
  A file of another name in the directory of a path is
  another file, and a file of the same name is the same.
-/
theorem resolve_sibling
    (cwd : List Bytes)
    (p : Bytes)
    (hProper : Proper name)
    (hName : name ≠ dotdot) :
    resolve cwd (join [dir p, name]) = resolve cwd p ↔
      afterSlash p = name := by
  rw [resolve_beside cwd p hProper hName,
    resolve_afterSlash cwd p, eq_comm,
    enter_eq_cons_iff hProper hName]

end Path

end BridgeSigner

------------------------------------------------------------
-- The Last Element Of A Joined Path
------------------------------------------------------------

namespace BridgeSigner

namespace Path

variable {name : Bytes}

theorem all_ne_slash
    (hName : slash ∉ name) :
    ∀ b ∈ name.reverse, (b != slash) = true := by
  intro b hb
  rw [bne_iff_ne]
  rintro rfl
  exact hName (List.mem_reverse.mp hb)

theorem afterSlash_below
    (d : Bytes)
    (hName : slash ∉ name) :
    afterSlash (d ++ slash :: name) = name := by
  simp [afterSlash, List.rtakeWhile,
    List.takeWhile_append_of_pos (all_ne_slash hName)]

theorem afterSlash_name
    (hName : slash ∉ name) :
    afterSlash name = name := by
  rw [afterSlash, List.rtakeWhile,
    List.takeWhile_eq_self_iff.mpr (all_ne_slash hName),
    List.reverse_reverse]

theorem intercalate_concat
    {ns : List Bytes}
    (hSome : ns ≠ [])
    (name : Bytes) :
    [slash].intercalate (ns ++ [name]) =
      [slash].intercalate ns ++ slash :: name := by
  induction ns with
  | nil => exact absurd rfl hSome
  | cons n ns ih =>
      cases ns with
      | nil => simp [List.intercalate]
      | cons m ns =>
          rw [List.cons_append, List.cons_append,
            List.intercalate_cons_cons,
            List.intercalate_cons_cons, ← List.cons_append,
            ih (List.cons_ne_nil _ _), List.append_assoc,
            List.append_assoc, List.append_assoc]

/- The name that a path is joined with stays its last. -/
theorem afterSlash_join
    {d : Bytes}
    (hDir : d ≠ [])
    (hProper : Proper name)
    (hDots : name ≠ dotdot) :
    afterSlash (join [d, name]) = name := by
  have hJoin :
      join [d, name] = clean (d ++ slash :: name) := by
    simp [join, hDir, List.intercalate]
  have hPush :
      ∀ root stack, push root stack name = name :: stack := by
    intro root stack
    simp [push, hProper.nonempty, hProper.notDot, hDots]
  have hLast :
      ∃ ns, names (d ++ slash :: name) = ns ++ [name] := by
    unfold names elements
    rw [List.splitOn_append_cons_self,
      List.splitOn_eq_singleton hProper.noSlash,
      List.foldl_append, List.foldl_cons, List.foldl_nil,
      hPush, List.reverse_cons]
    exact ⟨_, rfl⟩
  rcases hLast with ⟨ns, hLast⟩
  rw [hJoin, clean, hLast]
  by_cases hNone : ns = []
  · have hOnly : [slash].intercalate (ns ++ [name]) = name := by
      simp [hNone, List.intercalate]
    rw [hOnly]
    split
    · exact afterSlash_below [] hProper.noSlash
    · rw [if_neg (by simp)]
      exact afterSlash_name hProper.noSlash
  · rw [intercalate_concat hNone]
    split
    · exact afterSlash_below (slash :: _) hProper.noSlash
    · rw [if_neg (by simp)]
      exact afterSlash_below _ hProper.noSlash

end Path

end BridgeSigner
