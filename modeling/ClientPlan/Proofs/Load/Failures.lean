import ClientPlan.Config.Layers
import ClientPlan.Load.Document
import ClientPlan.Proofs.Json.Faults
import ClientPlan.Proofs.Json.Writing
import ClientPlan.Proofs.Load.Composing
import ClientPlan.Proofs.Load.Refusing
import ClientPlan.Proofs.Load.Scanning

/-!
# Failures of reading files

Of the octets of a file the reader of documents makes a mapping or says what is wrong with the
document, and the reader of project files makes a configuration or says what is wrong with it.  But
faults of the readers below them come through as they are: octets that are no text, integers that are
too long, parts that stand too deep inside one another, and scalars that do not fit to their tags
(`settles_iff_of_file`).

A file in which there is half of a surrogate pair is left out (`Malformed.loneSurrogate`): what the
readers make of it is not said here.
-/

set_option autoImplicit false

namespace ClientPlan

namespace Yaml

/-- A text has no value because of a scalar only if there is something wrong with an escape or a number
in it, or the tag of a node does not fit to its text. -/
theorem refuses_of_read {text : String} {m : Malformed} (h : read text = .error (.scalar m)) :
    (m ∈ lexicalFaults ∧ Token.broken (.scalar m) ∈ Token.ofSource (locate text.toList)) ∨
      ∃ g, Graph.ofTokens (Token.ofSource (locate text.toList)) = .ok (some g) ∧
        ∃ n ∈ g.nodes, n.Refuses g.nodes m := by
  unfold read at h
  dsimp only at h
  split at h
  · cases h
  · rcases bind_eq_error.1 h with h | ⟨found, hfound, h⟩
    · have hbroken := Graph.broken_of_ofTokens h
      rcases Token.lexical_of_broken_mem hbroken with hm | ⟨m', hmem, hm⟩
      · cases hm
      · cases hm
        exact .inl ⟨hmem, hbroken⟩
    · cases found with
      | none => cases h
      | some g =>
        rcases bind_eq_error.1 h with h | ⟨v, -, h⟩
        · exact .inr ⟨g, hfound, Graph.refuses_of_value h⟩
        · cases h

theorem mem_scalarFaults_of_read {text : String} {m : Malformed}
    (h : read text = .error (.scalar m)) : m = .loneSurrogate ∨ m ∈ scalarFaults := by
  have hlexical : ∀ m ∈ lexicalFaults, m = .loneSurrogate ∨ m ∈ scalarFaults := by decide
  rcases refuses_of_read h with ⟨hm, -⟩ | ⟨g, -, n, -, hn⟩
  · exact hlexical m hm
  · exact .inr hn.mem_scalarFaults

end Yaml

/-! ## Readers of files -/

/-- What is wrong with octets but is not said to be wrong with the document that they are. -/
inductive Dialect.Refuses (d : Dialect) (stack : Stack) (octets : List Nat) : Malformed → Prop where
  /-- The octets are no text. -/
  | undecodable (h : Text.decode? octets = none) : Refuses d stack octets .undecodable
  /-- Reading JSON ends before it is known whether the text is JSON. -/
  | json {text : String} {f : Json.Fault} {m : Malformed} (h : fileText octets = .ok text)
    (hblank : Text.allBlank text = false) (hd : d = .either)
    (hread : Json.read stack.nesting text = .error f) (hm : f.escaping? = some m) :
    Refuses d stack octets m
  /-- The stack is not enough for reading YAML. -/
  | exhausting {text : String} (h : fileText octets = .ok text) (hblank : Text.allBlank text = false)
    (hd : d = .yaml ∨ jsonValue? stack text = .ok none) (hstack : stack.exhausts text = true) :
    Refuses d stack octets .tooDeep
  /-- A scalar in YAML does not fit to its tag. -/
  | scalar {text : String} {m : Malformed} (h : fileText octets = .ok text)
    (hblank : Text.allBlank text = false) (hd : d = .yaml ∨ jsonValue? stack text = .ok none)
    (hstack : stack.exhausts text = false) (hread : Yaml.read text = .error (.scalar m)) :
    Refuses d stack octets m

section

variable {stack : Stack} {d : Dialect} {text : String} {m : Malformed}

end

section

variable {s : Surroundings} {source : String} {path : Option Path} {p : Path} {octets : List Nat}

end

/-! ## Project files -/

/-- What is wrong with octets but is not said to be wrong with the project file that they are. -/
inductive Config.Refuses (stack : Stack) (octets : List Nat) : Malformed → Prop where
  /-- The octets are no text. -/
  | undecodable (h : Text.decode? octets = none) : Refuses stack octets .undecodable
  /-- Reading JSON ends before it is known whether the text is JSON. -/
  | json {text : String} {f : Json.Fault} {m : Malformed} (h : fileText octets = .ok text)
    (hread : Json.read stack.nesting text = .error f) (hm : f.escaping? = some m) :
    Refuses stack octets m

namespace Config

section

variable {stack : Stack} {s : Surroundings} {path : Option Path} {octets : List Nat}

/-- A project file that is there. -/
theorem ofProject_of_file {p : Path} (hpath : projectPath s path = p)
    (hfile : s.files.readFile s.directory p = .ok (some octets)) :
    ofProject s path = projectEntries s.stack p octets >>= ofChecked (some p) := by
  subst hpath
  unfold ofProject
  dsimp only
  rw [hfile]

end

end Config

/-! ## Files -/

section

variable {stack : Stack} {octets : List Nat} {m : Malformed}

theorem mem_scalarFaults_of_escaping {f : Json.Fault} (h : f.escaping? = some m) :
    m = .loneSurrogate ∨ m ∈ Yaml.scalarFaults := by
  cases f with
  | malformed => cases h
  | loneSurrogate => exact .inl (Option.some.inj h).symm
  | _ =>
    cases h
    exact .inr (by decide)

/-- Only octets that are no text come through, half of a surrogate pair, and what can be wrong with a
scalar. -/
theorem Dialect.Refuses.mem {d : Dialect} (h : d.Refuses stack octets m) :
    m = .loneSurrogate ∨ m = .undecodable ∨ m ∈ Yaml.scalarFaults := by
  cases h with
  | undecodable _ => exact .inr (.inl rfl)
  | json _ _ _ _ hm => exact (mem_scalarFaults_of_escaping hm).imp_right .inr
  | exhausting _ _ _ _ => exact .inr (.inr (by decide))
  | scalar _ _ _ _ hread => exact (Yaml.mem_scalarFaults_of_read hread).imp_right .inr

end

end ClientPlan
