import Unlinger.Macos.Model.Procargs

/-!
# What process arguments are decoded to

The kernel's encoding of a path, arguments and an environment, and when
decoding it gives the arguments and the one selector: where the first
argument is not empty. An empty first argument is taken for padding, and
as many strings of the environment stand among the arguments as empty
arguments were skipped.
-/

namespace Unlinger

open Framing

/-- The count, the lowest byte first. -/
def argcBytes (n : Nat) : List UInt8 :=
  [UInt8.ofNat (n % 256), UInt8.ofNat (n / 256 % 256), UInt8.ofNat (n / 65536 % 256),
    UInt8.ofNat (n / 16777216 % 256)]

/-- `KERN_PROCARGS2`: the count, the path with its NUL, the padding of that
path, and the arguments and the environment, each with a NUL. -/
def procargs2 (padding : List UInt8 → Nat) (path : List UInt8) (argv : List String)
    (env : List (List UInt8)) : List UInt8 :=
  argcBytes argv.length ++ (path ++ 0 :: (List.replicate (padding path) 0
    ++ (terminated 0 (argv.map Text.bytes) ++ terminated 0 env)))

/-- A process as the kernel can have it. -/
structure ProcessImage (path : List UInt8) (argv : List String) (env : List (List UInt8)) :
    Prop where
  pathNonempty : path ≠ []
  path : 0 ∉ path
  argc : argv.length < 2 ^ 31
  argv : ∀ a ∈ argv, '\x00' ∉ a.toList
  env : ∀ e ∈ env, 0 ∉ e

/-- An entry that selects a task. -/
def IsSelector (entry : List UInt8) (value : String) : Prop :=
  entry = Text.bytes ("PLAYWRIGHT_CLI_SESSION=" ++ value) ∧ (taskIdFromSession value).isSome

/-- The first entry that selects a task is the one that counts. -/
def Selects (env : List (List UInt8)) : Option String → Prop
  | none => ∀ entry ∈ env, ∀ value, ¬ IsSelector entry value
  | some value => ∃ before entry after, env = before ++ entry :: after ∧ IsSelector entry value ∧
      ∀ other ∈ before, ∀ value, ¬ IsSelector other value

/-- What was encoded is what is decoded: the arguments, and the selector. -/
def DecodesExactly (padding : List UInt8 → Nat) (path : List UInt8) (argv : List String)
    (env : List (List UInt8)) : Prop :=
  ∃ selector, Selects env selector ∧
    parseProcargs2Task (procargs2 padding path argv env) = some (argv, selector)

/-! ## The pieces of the buffer -/

theorem intFromBytes_argcBytes {n : Nat} (h : n < 2 ^ 31) : intFromBytes (argcBytes n) = n := by
  have hbytes : (argcBytes n).foldr (fun b m => b.toNat + 256 * m) 0 = n := by
    simp only [argcBytes, List.foldr_cons, List.foldr_nil]
    rw [Utf8.toNat_ofNat (by omega), Utf8.toNat_ofNat (by omega), Utf8.toNat_ofNat (by omega),
      Utf8.toNat_ofNat (by omega)]
    omega
  rw [intFromBytes, hbytes, if_pos h]

theorem untilNul_append {part : List UInt8} (h : 0 ∉ part) (rest : List UInt8) :
    untilNul (part ++ 0 :: rest) = some (part, rest) := by
  induction part with
  | nil => rfl
  | cons b part ih =>
    have hb : b ≠ 0 := fun hzero => h (by simp [hzero])
    rw [List.cons_append, untilNul, if_neg hb, ih fun hmem => h (by simp [hmem])]
    rfl

/-- As many arguments as there are. -/
theorem takeArguments_terminated {argv : List String} (h : ∀ a ∈ argv, '\x00' ∉ a.toList)
    (rest : List UInt8) :
    takeArguments argv.length (terminated 0 (argv.map Text.bytes) ++ rest) = some (argv, rest) := by
  induction argv with
  | nil => rfl
  | cons a argv ih =>
    have hsplit : terminated 0 ((a :: argv).map Text.bytes) ++ rest
        = Text.bytes a ++ 0 :: (terminated 0 (argv.map Text.bytes) ++ rest) := by
      simp [terminated]
    have hne : (Text.bytes a ++ 0 :: (terminated 0 (argv.map Text.bytes) ++ rest)).isEmpty
        = false := by simp
    rw [hsplit, List.length_cons, takeArguments, hne, if_neg (by decide),
      untilNul_append (Utf8.notMem_bytes_zero (h a (by simp))), Option.bind_some,
      ih fun b hb => h b (by simp [hb])]
    simp [Utf8.decodeLossy_bytes]

theorem splitNul_terminated {env : List (List UInt8)} (h : ∀ e ∈ env, 0 ∉ e) :
    splitNul (terminated 0 env) = env ++ [[]] := by
  have hpart : ∀ (part rest : List UInt8), 0 ∉ part →
      splitNul (part ++ 0 :: rest) = part :: splitNul rest := by
    intro part rest hzero
    induction part with
    | nil => rfl
    | cons b part ih =>
      have hb : b ≠ 0 := fun heq => hzero (by simp [heq])
      rw [List.cons_append, splitNul, if_neg hb, ih fun hmem => hzero (by simp [hmem])]
  induction env with
  | nil => rfl
  | cons e env ih =>
    have hsplit : terminated 0 (e :: env) = e ++ 0 :: terminated 0 env := by simp [terminated]
    rw [hsplit, hpart e _ (h e (by simp)), ih fun e' he' => h e' (by simp [he'])]
    rfl

theorem sessionEntry_nil : sessionEntry [] = none := by decide

/-- Skipped NULs hold no selector. -/
theorem findSome_splitNul_dropWhile (tail : List UInt8) :
    (splitNul (tail.dropWhile (· == 0))).findSome? sessionEntry
      = (splitNul tail).findSome? sessionEntry := by
  induction tail with
  | nil => rfl
  | cons b tail ih =>
    by_cases hb : b = 0
    · subst hb
      rw [List.dropWhile_cons_of_pos (by decide), ih, splitNul, if_pos rfl, List.findSome?_cons,
        sessionEntry_nil]
    · rw [List.dropWhile_cons_of_neg (by simpa using hb)]

theorem bytes_append (s t : String) : Text.bytes (s ++ t) = Text.bytes s ++ Text.bytes t := by
  simp [Text.bytes]

/-- An entry holds the selector it spells. -/
theorem sessionEntry_eq_some {entry : List UInt8} {value : String} :
    sessionEntry entry = some value ↔ IsSelector entry value := by
  unfold sessionEntry IsSelector
  rw [bytes_append]
  simp only [Option.bind_eq_some_iff, List.isPrefixOf?_eq_some_iff_append_eq, Utf8.decode_eq_some,
    Option.map_eq_some_iff]
  constructor
  · rintro ⟨tail, htail, decoded, rfl, task, htask, rfl⟩
    exact ⟨htail.symm, by simp [htask]⟩
  · rintro ⟨rfl, htask⟩
    obtain ⟨task, htask⟩ := Option.isSome_iff_exists.mp htask
    exact ⟨_, rfl, value, rfl, task, htask, rfl⟩

/-- **The first selector is found.** -/
theorem selects_findSome (env : List (List UInt8)) : Selects env (env.findSome? sessionEntry) := by
  cases hfound : env.findSome? sessionEntry with
  | none =>
    intro entry hentry value hselector
    have hnone := List.findSome?_eq_none_iff.mp hfound entry hentry
    rw [sessionEntry_eq_some.mpr hselector] at hnone
    cases hnone
  | some value =>
    obtain ⟨before, entry, after, henv, hentry, hbefore⟩ := List.findSome?_eq_some_iff.mp hfound
    refine ⟨before, entry, after, henv, sessionEntry_eq_some.mp hentry, fun other hother v hv => ?_⟩
    have hnone := hbefore other hother
    rw [sessionEntry_eq_some.mpr hv] at hnone
    cases hnone

/-- There is one first selector. -/
theorem Selects.eq_findSome {env : List (List UInt8)} {selector : Option String}
    (h : Selects env selector) : selector = env.findSome? sessionEntry := by
  cases selector with
  | none =>
    refine (List.findSome?_eq_none_iff.mpr fun entry hentry => ?_).symm
    by_contra hsome
    obtain ⟨value, hvalue⟩ := Option.ne_none_iff_exists'.mp hsome
    exact h entry hentry value (sessionEntry_eq_some.mp hvalue)
  | some value =>
    obtain ⟨before, entry, after, henv, hentry, hbefore⟩ := h
    refine (List.findSome?_eq_some_iff.mpr ⟨before, entry, after, henv,
      sessionEntry_eq_some.mpr hentry, fun other hother => ?_⟩).symm
    by_contra hsome
    obtain ⟨v, hv⟩ := Option.ne_none_iff_exists'.mp hsome
    exact hbefore other hother v (sessionEntry_eq_some.mp hv)

/-! ## The whole buffer -/

section Buffer

variable {padding : List UInt8 → Nat} {path : List UInt8} {argv : List String}
  {env : List (List UInt8)}

/-- The buffer behind the count and the path. -/
theorem parse_procargs2 (h : ProcessImage path argv env) :
    parseProcargs2Task (procargs2 padding path argv env) =
      (takeArguments argv.length ((List.replicate (padding path) 0
          ++ (terminated 0 (argv.map Text.bytes) ++ terminated 0 env)).dropWhile (· == 0))).map
        fun rest => (rest.1, (splitNul rest.2).findSome? sessionEntry) := by
  have htake : (procargs2 padding path argv env).take 4 = argcBytes argv.length := rfl
  have hdrop : (procargs2 padding path argv env).drop 4 = path ++ 0 ::
      (List.replicate (padding path) 0
        ++ (terminated 0 (argv.map Text.bytes) ++ terminated 0 env)) := rfl
  have hlen : ¬ (procargs2 padding path argv env).length < 4 := by
    simp [procargs2, argcBytes]
  have hcount : ¬ ((argv.length : Int) < 0) := by omega
  rw [parseProcargs2Task, if_neg hlen, htake, hdrop, intFromBytes_argcBytes h.argc,
    if_neg hcount, untilNul_append h.path, Option.bind_some, Int.toNat_natCast]

/-- NULs are skipped up to what does not begin with one. -/
theorem dropWhile_replicate (n : Nat) (rest : List UInt8) :
    (List.replicate n (0 : UInt8) ++ rest).dropWhile (· == 0) = rest.dropWhile (· == 0) := by
  induction n with
  | zero => rfl
  | succ n ih =>
    rw [List.replicate_succ, List.cons_append, List.dropWhile_cons_of_pos (by decide), ih]

/-- A text that is not empty does not begin with a NUL. -/
theorem dropWhile_bytes {a : String} (hne : a ≠ "") (hnul : '\x00' ∉ a.toList)
    (rest : List UInt8) :
    (Text.bytes a ++ rest).dropWhile (· == 0) = Text.bytes a ++ rest := by
  have hbytes : Text.bytes a ≠ [] := by
    intro hnil
    exact hne (Text.bytes_inj.mp (hnil.trans rfl))
  obtain ⟨b, bs, hcons⟩ := List.exists_cons_of_ne_nil hbytes
  have hb : b ≠ 0 := by
    intro hzero
    apply Utf8.notMem_bytes_zero hnul
    simp [hcons, hzero]
  rw [hcons, List.cons_append, List.dropWhile_cons_of_neg (by simpa using hb)]

/-- **The first argument is not empty**: everything is read back. -/
theorem parse_of_head (h : ProcessImage path argv env) (hhead : argv.head? ≠ some "") :
    parseProcargs2Task (procargs2 padding path argv env)
      = some (argv, env.findSome? sessionEntry) := by
  have hfound : (splitNul (terminated 0 env)).findSome? sessionEntry
      = env.findSome? sessionEntry := by
    rw [splitNul_terminated h.env, List.findSome?_append]
    simp [sessionEntry_nil]
  rw [parse_procargs2 h, dropWhile_replicate]
  cases argv with
  | nil =>
    show some (([] : List String), _) = _
    rw [List.map_nil, show terminated 0 ([] : List (List UInt8)) = [] from rfl, List.nil_append,
      findSome_splitNul_dropWhile, hfound]
  | cons a argv =>
    have hne : a ≠ "" := fun heq => hhead (by rw [heq]; rfl)
    have hkeep : (terminated 0 ((a :: argv).map Text.bytes) ++ terminated 0 env).dropWhile (· == 0)
        = terminated 0 ((a :: argv).map Text.bytes) ++ terminated 0 env := by
      have hsplit : terminated 0 ((a :: argv).map Text.bytes) ++ terminated 0 env
          = Text.bytes a ++ 0 :: (terminated 0 (argv.map Text.bytes) ++ terminated 0 env) := by
        simp [terminated]
      rw [hsplit, dropWhile_bytes hne (h.argv a (by simp))]
    rw [hkeep, takeArguments_terminated h.argv, Option.map_some, hfound]

/-- What follows the padding begins with a byte that is no NUL, and so the
first argument that is read is not empty. -/
theorem takeArguments_head {n : Nat} {tail : List UInt8} {rest : List String × List UInt8}
    (h : takeArguments (n + 1) (tail.dropWhile (· == 0)) = some rest) :
    rest.1.head? ≠ some "" := by
  have hnul : ∀ (b : UInt8) (bs : List UInt8), tail.dropWhile (· == 0) = b :: bs → b ≠ 0 := by
    intro b bs hcons hzero
    have hhead := List.head_dropWhile_not (p := (· == 0)) (l := tail) (by simp [hcons])
    simp [hcons, hzero] at hhead
  generalize tail.dropWhile (· == 0) = kept at h hnul
  cases kept with
  | nil => simp [takeArguments] at h
  | cons b bs =>
    have hb := hnul b bs rfl
    rw [takeArguments, if_neg (by simp), untilNul, if_neg hb] at h
    obtain ⟨parts, hparts, hrest⟩ := Option.bind_eq_some_iff.mp h
    obtain ⟨found, -, rfl⟩ := Option.map_eq_some_iff.mp hparts
    obtain ⟨more, -, rfl⟩ := Option.map_eq_some_iff.mp hrest
    intro hempty
    exact Utf8.decodeLossy_ne_empty (List.cons_ne_nil b found.1) (Option.some.inj hempty)

/-- **Arguments are decoded exactly where the first is not empty**, and
then nothing else of the environment shows. -/
theorem procargs2_exact_iff (h : ProcessImage path argv env) :
    (DecodesExactly padding path argv env ↔ argv.head? ≠ some "") ∧
      (argv.head? ≠ some "" → ∀ env', ProcessImage path argv env' →
        (∀ selector, Selects env selector ↔ Selects env' selector) →
        parseProcargs2Task (procargs2 padding path argv env)
          = parseProcargs2Task (procargs2 padding path argv env')) := by
  refine ⟨⟨?_, fun hhead => ?_⟩, fun hhead env' h' hsame => ?_⟩
  · rintro ⟨selector, -, hparse⟩
    rw [parse_procargs2 h] at hparse
    obtain ⟨rest, hrest, heq⟩ := Option.map_eq_some_iff.mp hparse
    obtain ⟨hargv, -⟩ := Prod.mk.inj heq
    cases argv with
    | nil => simp
    | cons a argv =>
      rw [← hargv]
      exact takeArguments_head hrest
  · exact ⟨_, selects_findSome env, parse_of_head h hhead⟩
  · rw [parse_of_head h hhead, parse_of_head h' hhead,
      ((hsame _).mp (selects_findSome env)).eq_findSome]

end Buffer

/-- A string without a NUL, as the environment holds it. -/
def secretEntry : List UInt8 := Text.bytes "SECRET=x"

/-- A tool with an empty argument behind its name. -/
theorem procargs2_exact_iff_tool :
    DecodesExactly (fun _ => 2) (Text.bytes "/bin/tool") ["tool", ""] [secretEntry] := by
  have himage : ProcessImage (Text.bytes "/bin/tool") ["tool", ""] [secretEntry] :=
    ⟨by decide, by decide, by decide, by decide, by decide⟩
  exact (procargs2_exact_iff himage).1.mpr (by decide)

/-- **An empty name leaks the environment**: the empty argument is taken
for padding, and a string of the environment becomes an argument. -/
theorem empty_name_leaks :
    parseProcargs2Task (procargs2 (fun _ => 2) (Text.bytes "/bin/tool") ["", "run"] [secretEntry])
        = some (["run", "SECRET=x"], none) ∧
      ¬ ∀ (padding : List UInt8 → Nat) (path : List UInt8) (argv : List String)
        (env : List (List UInt8)), ProcessImage path argv env →
        DecodesExactly padding path argv env := by
  have hparse : parseProcargs2Task (procargs2 (fun _ => 2) (Text.bytes "/bin/tool") ["", "run"]
      [secretEntry]) = some (["run", "SECRET=x"], none) := by decide
  refine ⟨hparse, fun hclaim => ?_⟩
  obtain ⟨selector, -, hexact⟩ := hclaim (fun _ => 2) (Text.bytes "/bin/tool") ["", "run"]
    [secretEntry] ⟨by decide, by decide, by decide, by decide, by decide⟩
  rw [hparse] at hexact
  obtain ⟨hargv, -⟩ := Prod.mk.inj (Option.some.inj hexact)
  exact absurd hargv (by decide)

end Unlinger
