/-
Module: Uplink.Proofs.Json.Tree
Purpose: The reader's machine builds every tree from the tokens that the tree is written with, and a text
  from a single token only.
Main exports: JsonTree.tokens, JsonTree.run_tokens, JsonTree.ofTokens?_tokens, JsonTree.ofTokens?_text
-/
import Uplink.Json.Tree

namespace Uplink.JsonTree

/-! ### The tokens of a tree -/

mutual

/-- The tokens that a tree is written with. -/
def tokens : JsonTree → List Token
  | .null => [.null]
  | .boolean value => [.boolean value]
  | .number literal => [.number literal]
  | .text raw => [.text raw]
  | .array [] => [.openArray, .closeArray]
  | .array (item :: rest) => .openArray :: (tokens item ++ tokensOfItems rest)
  | .object [] => [.openObject, .closeObject]
  | .object ((key, item) :: rest) =>
      .openObject :: .text key :: .colon :: (tokens item ++ tokensOfMembers rest)

/-- The items after the first one, each behind a comma, and the closing bracket. -/
def tokensOfItems : List JsonTree → List Token
  | [] => [.closeArray]
  | item :: rest => .comma :: (tokens item ++ tokensOfItems rest)

/-- The members after the first one, each behind a comma, and the closing brace. -/
def tokensOfMembers : List (RawText × JsonTree) → List Token
  | [] => [.closeObject]
  | (key, item) :: rest => .comma :: .text key :: .colon :: (tokens item ++ tokensOfMembers rest)

end

/-- Go on with the tokens `rest`, if there is a configuration to go on from. -/
def resume (next : Option Reading) (rest : List Token) : Option Reading :=
  next.bind fun reading => run reading rest

theorem run_cons (reading : Reading) (token : Token) (rest : List Token) :
    run reading (token :: rest) = resume (step reading token) rest := by
  rw [run]
  cases step reading token <;> rfl

/-- A tree starts with a token that closes nothing. -/
theorem tokens_start (tree : JsonTree) :
    ∃ first others, tree.tokens = first :: others ∧ first ≠ .closeArray := by
  unfold tokens
  split <;> exact ⟨_, _, rfl, nofun⟩

/-- The first item of an array is read as any other value is. -/
theorem run_firstItem (tree : JsonTree) (stack : List Pending) (rest : List Token) :
    run { expected := .firstItem, stack } (tree.tokens ++ rest)
      = run { expected := .value, stack } (tree.tokens ++ rest) := by
  obtain ⟨first, others, starts, notClose⟩ := tokens_start tree
  rw [starts, List.cons_append, run_cons, run_cons]
  simp only [step]

/-- A key and its colon are read in front of any tokens, for the first member and for every other one. -/
theorem run_key {expected : Expected} (wanted : expected = .firstKey ∨ expected = .key) (key : RawText)
    (done : List (RawText × JsonTree)) (outer : List Pending) (rest : List Token) :
    run { expected, stack := .object done :: outer } (.text key :: .colon :: rest)
      = run { expected := .value, stack := .member done key :: outer } rest := by
  rcases wanted with rfl | rfl <;> rfl

mutual

/-- Reading the tokens of a tree delivers the tree. -/
theorem run_tokens (tree : JsonTree) (stack : List Pending) (rest : List Token) :
    run { expected := .value, stack } (tree.tokens ++ rest) = resume (deliver tree stack) rest := by
  match tree with
  | .null => exact run_cons _ _ _
  | .boolean _ => exact run_cons _ _ _
  | .number _ => exact run_cons _ _ _
  | .text _ => exact run_cons _ _ _
  | .array [] => exact (run_cons _ _ _).trans (run_cons _ _ _)
  | .array (item :: others) =>
      rw [tokens, List.cons_append, List.append_assoc, run_cons]
      exact (run_firstItem item _ _).trans ((run_tokens item _ _).trans (run_items others [item] stack rest))
  | .object [] => exact (run_cons _ _ _).trans (run_cons _ _ _)
  | .object ((key, item) :: others) =>
      rw [tokens, List.cons_append, List.cons_append, List.cons_append, List.append_assoc, run_cons]
      exact (run_key (.inl rfl) key [] stack _).trans
        ((run_tokens item _ _).trans (run_members others [(key, item)] stack rest))

/-- Reading the remaining items of an open array delivers the array. -/
theorem run_items (items done : List JsonTree) (outer : List Pending) (rest : List Token) :
    run { expected := .separator, stack := .array done :: outer } (tokensOfItems items ++ rest)
      = resume (deliver (.array (done.reverse ++ items)) outer) rest := by
  match items with
  | [] =>
      rw [List.append_nil]
      exact run_cons _ _ _
  | item :: others =>
      rw [tokensOfItems, List.cons_append, List.append_assoc, run_cons, List.append_cons,
        ← List.reverse_cons]
      exact (run_tokens item _ _).trans (run_items others (item :: done) outer rest)

/-- Reading the remaining members of an open object delivers the object. -/
theorem run_members (members done : List (RawText × JsonTree)) (outer : List Pending)
    (rest : List Token) :
    run { expected := .separator, stack := .object done :: outer } (tokensOfMembers members ++ rest)
      = resume (deliver (.object (done.reverse ++ members)) outer) rest := by
  match members with
  | [] =>
      rw [List.append_nil]
      exact run_cons _ _ _
  | (key, item) :: others =>
      rw [tokensOfMembers, List.cons_append, List.cons_append, List.cons_append, List.append_assoc,
        run_cons, List.append_cons, ← List.reverse_cons]
      exact (run_key (.inr rfl) key done outer _).trans
        ((run_tokens item _ _).trans (run_members others ((key, item) :: done) outer rest))

end

/-- A tree is read from the tokens that it is written with. -/
theorem ofTokens?_tokens (tree : JsonTree) : ofTokens? tree.tokens = some tree := by
  have reads := run_tokens tree [] []
  rw [List.append_nil] at reads
  rw [ofTokens?, reads]
  rfl

/-! ### Which tokens form a text -/

/-- A tree that is not a text. -/
def NotText (tree : JsonTree) : Prop :=
  ∀ raw, tree ≠ .text raw

theorem notText_array (items : List JsonTree) : NotText (.array items) := by
  intro raw same
  cases same

theorem notText_object (members : List (RawText × JsonTree)) : NotText (.object members) := by
  intro raw same
  cases same

/-- What holds from the first bracket on: a container is open, or the result is not a text. -/
def Boxed (reading : Reading) : Prop :=
  match reading.expected with
  | .nothing result => NotText result
  | _ => reading.stack ≠ []

theorem boxed_deliver {value : JsonTree} {stack : List Pending} {next : Reading}
    (boxed : stack ≠ [] ∨ NotText value) (delivered : deliver value stack = some next) : Boxed next := by
  unfold deliver at delivered
  split at delivered
  · cases delivered
    exact boxed.resolve_left (fun notEmpty => notEmpty rfl)
  · cases delivered
    exact List.cons_ne_nil _ _
  · cases delivered
    exact List.cons_ne_nil _ _
  · cases delivered

theorem boxed_beginValue {stack : List Pending} {token : Token} {next : Reading} (isOpen : stack ≠ [])
    (begun : beginValue stack token = some next) : Boxed next := by
  cases token with
  | null => exact boxed_deliver (.inl isOpen) begun
  | boolean value => exact boxed_deliver (.inl isOpen) begun
  | number literal => exact boxed_deliver (.inl isOpen) begun
  | text raw => exact boxed_deliver (.inl isOpen) begun
  | openArray =>
      cases begun
      exact List.cons_ne_nil _ _
  | openObject =>
      cases begun
      exact List.cons_ne_nil _ _
  | _ => cases begun

theorem boxed_closeWith {stack : List Pending} {token : Token} {next : Reading}
    (closed : closeWith stack token = some next) : Boxed next := by
  unfold closeWith at closed
  split at closed
  · split at closed
    · exact boxed_deliver (.inr (notText_array _)) closed
    · cases closed
  · split at closed
    · exact boxed_deliver (.inr (notText_object _)) closed
    · cases closed
  · cases closed

/-- Inside a container no token leads to a text as the result. -/
theorem Boxed.step {reading next : Reading} {token : Token} (boxed : Boxed reading)
    (stepped : JsonTree.step reading token = some next) : Boxed next := by
  obtain ⟨expected, stack⟩ := reading
  cases expected with
  | value => exact boxed_beginValue boxed stepped
  | firstItem =>
      simp only [JsonTree.step] at stepped
      split at stepped
      · exact boxed_closeWith stepped
      · exact boxed_beginValue boxed stepped
  | separator =>
      simp only [JsonTree.step] at stepped
      split at stepped
      · cases stepped
        exact boxed
      · cases stepped
        exact boxed
      · exact boxed_closeWith stepped
  | firstKey =>
      simp only [JsonTree.step] at stepped
      split at stepped
      · cases stepped
        exact boxed
      · exact boxed_closeWith stepped
      · cases stepped
  | key =>
      simp only [JsonTree.step] at stepped
      split at stepped
      · cases stepped
        exact boxed
      · cases stepped
  | colon key =>
      simp only [JsonTree.step] at stepped
      split at stepped
      · cases stepped
        exact List.cons_ne_nil _ _
      · cases stepped
  | nothing result => cases stepped

theorem Boxed.run {reading next : Reading} {tokens : List Token} (boxed : Boxed reading)
    (ran : JsonTree.run reading tokens = some next) : Boxed next := by
  induction tokens generalizing reading with
  | nil =>
      cases ran
      exact boxed
  | cons token rest ih =>
      simp only [JsonTree.run] at ran
      split at ran
      · rename_i stepped
        exact ih (boxed.step stepped) ran
      · cases ran

/-- Behind a complete value nothing may follow. -/
theorem run_nothing {result : JsonTree} {next : Reading} {stack : List Pending} {tokens : List Token}
    (ran : run { expected := .nothing result, stack } tokens = some next) :
    tokens = [] ∧ next = { expected := .nothing result, stack } := by
  cases tokens with
  | nil => exact ⟨rfl, (Option.some.inj ran).symm⟩
  | cons token rest => cases ran

/-- Only a single text token forms a text. -/
theorem ofTokens?_text {tokens : List Token} {raw : RawText}
    (formed : ofTokens? tokens = some (.text raw)) : tokens = [.text raw] := by
  unfold ofTokens? at formed
  split at formed
  · rename_i stack ran
    cases formed
    cases tokens with
    | nil => cases ran
    | cons token rest =>
        simp only [run, step] at ran
        cases token with
        | text found =>
            obtain ⟨noMore, same⟩ := run_nothing ran
            cases same
            rw [noMore]
        | openArray =>
            have boxed : Boxed { expected := .firstItem, stack := [.array []] } := List.cons_ne_nil _ _
            exact absurd rfl (boxed.run ran raw)
        | openObject =>
            have boxed : Boxed { expected := .firstKey, stack := [.object []] } := List.cons_ne_nil _ _
            exact absurd rfl (boxed.run ran raw)
        | null => cases (run_nothing ran).2
        | boolean value => cases (run_nothing ran).2
        | number literal => cases (run_nothing ran).2
        | _ => cases ran
  · cases formed

end Uplink.JsonTree
