import Mathlib.Data.List.Infix

namespace PortableTpcc

/-!
# Redacting secrets

`redact.go` overwrites the values of secret-named keys in a tree of YAML nodes
before the tree is written.  Anchors, aliases and comments are left out.
-/

namespace Redact

/-- `yaml.Kind`. -/
inductive Kind where
  | document
  | sequence
  | mapping
  | scalar
deriving Repr, DecidableEq

/-- `yaml.Node`; the content of a mapping are its keys, each followed by its value. -/
inductive Node where
  | mk (kind : Kind) (tag value : String) (style : Nat) (content : List Node)

namespace Node

def kind : Node → Kind
  | .mk kind _ _ _ _ => kind

def value : Node → String
  | .mk _ _ value _ _ => value

def style : Node → Nat
  | .mk _ _ _ style _ => style

def content : Node → List Node
  | .mk _ _ _ _ content => content

/-- What is written over the value of a secret-named key; its style and its content stay. -/
def redacted : Node → Node
  | .mk _ _ _ style content => .mk .scalar "!!str" "<redacted>" style content

end Node

/-- `secretKeys`. -/
def secretKeys : List String :=
  ["password", "passwd", "secret", "token", "credential"]

section

variable (toLower : Char → Char)

/-- `isSecretKey`, with `unicode.ToLower`. -/
def isSecretKey (key : String) : Bool :=
  let lower := key.toList.map toLower
  if lower = "password_env".toList ∨ lower = "token_env".toList ∨
      "_file".toList <:+ lower ∨ "_path".toList <:+ lower then
    false
  else
    secretKeys.any fun s => s.toList <:+: lower

/-- The condition of `redactNode` on a key. -/
def isSecret (key : Node) : Bool :=
  key.kind = .scalar && isSecretKey toLower key.value

mutual

/-- `redactNode`: the tree afterwards, or `none` for a panic. -/
def redactNode : Node → Option Node
  | .mk .mapping tag value style content =>
    (redactPairs content).map (.mk .mapping tag value style)
  | .mk .document tag value style content =>
    (redactAll content).map (.mk .document tag value style)
  | .mk .sequence tag value style content =>
    (redactAll content).map (.mk .sequence tag value style)
  | .mk .scalar tag value style content => some (.mk .scalar tag value style content)

/-- The loop over keys and values; a key without a value is an index out of range. -/
def redactPairs : List Node → Option (List Node)
  | [] => some []
  | [_] => none
  | key :: val :: rest =>
    (if isSecret toLower key then some val.redacted else redactNode val).bind fun val =>
      (redactPairs rest).map fun rest => key :: val :: rest

/-- The loop over the children. -/
def redactAll : List Node → Option (List Node)
  | [] => some []
  | child :: rest => (redactNode child).bind fun child => (redactAll rest).map (child :: ·)

end

mutual

/-- The tree without the children of its scalar nodes. -/
def strip : Node → Node
  | .mk .scalar tag value style _ => .mk .scalar tag value style []
  | .mk .mapping tag value style content => .mk .mapping tag value style (stripAll content)
  | .mk .document tag value style content => .mk .document tag value style (stripAll content)
  | .mk .sequence tag value style content => .mk .sequence tag value style (stripAll content)

def stripAll : List Node → List Node
  | [] => []
  | child :: rest => strip child :: stripAll rest

end

/-- `yaml.Unmarshal` into a node, and `yaml.Marshal` of a node. -/
structure YamlCodec where
  Bytes : Type
  decode : Bytes → Except String Node
  encode : Node → Except String Bytes
  /-- The children of a scalar node are not written. -/
  encode_strip : ∀ node, encode (strip node) = encode node

/-- How `RedactYAML` ends without a result. -/
inductive Failure where
  | error (text : String)
  | panic
deriving Repr, DecidableEq

/-- `RedactYAML`. -/
def redactYAML (yaml : YamlCodec) (data : yaml.Bytes) : Except Failure yaml.Bytes :=
  match yaml.decode data with
  | .error err => .error (.error err)
  | .ok root =>
    match root.content with
    | [] => .ok data
    | doc :: _ =>
      match redactNode toLower doc with
      | none => .error .panic
      | some doc => (yaml.encode doc).mapError .error

mutual

/--
Two trees are the same at every node that is not at or below the value of a
secret-named key; `related` holds for the values of these keys.
-/
def SameOutside (related : Node → Node → Prop) : Node → Node → Prop
  | .mk .mapping tag value style content, other =>
    ∃ content', other = .mk .mapping tag value style content' ∧
      SamePairs related content content'
  | .mk .document tag value style content, other =>
    ∃ content', other = .mk .document tag value style content' ∧ SameAll related content content'
  | .mk .sequence tag value style content, other =>
    ∃ content', other = .mk .sequence tag value style content' ∧ SameAll related content content'
  | .mk .scalar tag value style content, other => other = .mk .scalar tag value style content

def SamePairs (related : Node → Node → Prop) : List Node → List Node → Prop
  | [], others => others = []
  | [key], others => others = [key]
  | key :: val :: rest, others =>
    ∃ val' rest', others = key :: val' :: rest' ∧
      (if isSecret toLower key then related val val' else SameOutside related val val') ∧
      SamePairs related rest rest'

def SameAll (related : Node → Node → Prop) : List Node → List Node → Prop
  | [], others => others = []
  | child :: rest, others =>
    ∃ child' rest', others = child' :: rest' ∧ SameOutside related child child' ∧
      SameAll related rest rest'

end

mutual

/-- Two trees differ only in the values and tags of scalar nodes. -/
def SameShape : Node → Node → Prop
  | .mk kind tag value style content, .mk kind' tag' value' style' content' =>
    (kind' = kind ∧ style' = style ∧ (kind ≠ .scalar → tag' = tag ∧ value' = value)) ∧
      SameShapes content content'

def SameShapes : List Node → List Node → Prop
  | [], [] => True
  | child :: rest, child' :: rest' => SameShape child child' ∧ SameShapes rest rest'
  | _, _ => False

end

theorem SameShape.style_eq {first second : Node} (same : SameShape first second) :
    second.style = first.style := by
  cases first
  cases second
  simp only [SameShape] at same
  exact same.1.2.1

theorem strip_redacted {first second : Node} (same : SameShape first second) :
    strip second.redacted = strip first.redacted := by
  have style := same.style_eq
  cases first
  cases second
  simp only [Node.style] at style
  simp only [Node.redacted, strip, style]

mutual

/-- Redaction changes nothing outside the values of secret-named keys. -/
theorem redactNode_same : ∀ {node result : Node}, redactNode toLower node = some result →
    SameOutside toLower (fun val val' => val' = val.redacted) node result
  | .mk .mapping tag value style content, result, redacted => by
    simp only [redactNode, Option.map_eq_some_iff] at redacted
    rcases redacted with ⟨content', pairs, rfl⟩
    exact ⟨content', rfl, redactPairs_same pairs⟩
  | .mk .document tag value style content, result, redacted => by
    simp only [redactNode, Option.map_eq_some_iff] at redacted
    rcases redacted with ⟨content', all, rfl⟩
    exact ⟨content', rfl, redactAll_same all⟩
  | .mk .sequence tag value style content, result, redacted => by
    simp only [redactNode, Option.map_eq_some_iff] at redacted
    rcases redacted with ⟨content', all, rfl⟩
    exact ⟨content', rfl, redactAll_same all⟩
  | .mk .scalar tag value style content, result, redacted => by
    simp only [redactNode, Option.some_inj] at redacted
    exact redacted.symm

theorem redactPairs_same : ∀ {pairs result : List Node}, redactPairs toLower pairs = some result →
    SamePairs toLower (fun val val' => val' = val.redacted) pairs result
  | [], result, redacted => by
    simp only [redactPairs, Option.some_inj] at redacted
    exact redacted.symm
  | [key], result, redacted => by
    simp [redactPairs] at redacted
  | key :: val :: rest, result, redacted => by
    simp only [redactPairs, Option.bind_eq_some_iff, Option.map_eq_some_iff] at redacted
    rcases redacted with ⟨val', first, rest', later, rfl⟩
    refine ⟨val', rest', rfl, ?_, redactPairs_same later⟩
    split at first
    next secret =>
      rw [if_pos secret]
      exact (Option.some_inj.mp first).symm
    next notSecret =>
      rw [if_neg notSecret]
      exact redactNode_same first

theorem redactAll_same : ∀ {children result : List Node}, redactAll toLower children = some result →
    SameAll toLower (fun val val' => val' = val.redacted) children result
  | [], result, redacted => by
    simp only [redactAll, Option.some_inj] at redacted
    exact redacted.symm
  | child :: rest, result, redacted => by
    simp only [redactAll, Option.bind_eq_some_iff, Option.map_eq_some_iff] at redacted
    rcases redacted with ⟨child', first, rest', later, rfl⟩
    exact ⟨child', rest', rfl, redactNode_same first, redactAll_same later⟩

end

theorem map_stripAll_pair (key : Node) (val : Option Node) (rest : Option (List Node)) :
    (val.bind fun val => rest.map fun rest => key :: val :: rest).map stripAll =
      (val.map strip).bind fun val =>
        (rest.map stripAll).map fun rest => strip key :: val :: rest := by
  cases val <;> cases rest <;> simp [stripAll]

theorem map_stripAll_cons (child : Option Node) (rest : Option (List Node)) :
    (child.bind fun child => rest.map (child :: ·)).map stripAll =
      (child.map strip).bind fun child => (rest.map stripAll).map (child :: ·) := by
  cases child <;> cases rest <;> simp [stripAll]

mutual

/-- Trees that differ in secrets are written alike when they are redacted. -/
theorem strip_redactNode : ∀ {first second : Node}, SameOutside toLower SameShape first second →
    (redactNode toLower second).map strip = (redactNode toLower first).map strip
  | .mk .mapping tag value style content, second, same => by
    rcases same with ⟨content', rfl, pairs⟩
    have stripped :=
      congrArg (Option.map (Node.mk .mapping tag value style)) (strip_redactPairs pairs)
    simpa only [redactNode, Option.map_map, Function.comp_def, strip] using stripped
  | .mk .document tag value style content, second, same => by
    rcases same with ⟨content', rfl, all⟩
    have stripped := congrArg (Option.map (Node.mk .document tag value style)) (strip_redactAll all)
    simpa only [redactNode, Option.map_map, Function.comp_def, strip] using stripped
  | .mk .sequence tag value style content, second, same => by
    rcases same with ⟨content', rfl, all⟩
    have stripped := congrArg (Option.map (Node.mk .sequence tag value style)) (strip_redactAll all)
    simpa only [redactNode, Option.map_map, Function.comp_def, strip] using stripped
  | .mk .scalar tag value style content, second, same => by
    obtain rfl : second = .mk .scalar tag value style content := same
    rfl

theorem strip_redactPairs : ∀ {first second : List Node}, SamePairs toLower SameShape first second →
    (redactPairs toLower second).map stripAll = (redactPairs toLower first).map stripAll
  | [], second, same => by
    obtain rfl : second = [] := same
    rfl
  | [key], second, same => by
    obtain rfl : second = [key] := same
    rfl
  | key :: val :: rest, second, same => by
    rcases same with ⟨val', rest', rfl, values, others⟩
    have later := strip_redactPairs others
    have redacted : (if isSecret toLower key then some val'.redacted
        else redactNode toLower val').map strip =
        (if isSecret toLower key then some val.redacted else redactNode toLower val).map strip := by
      split at values
      next secret =>
        simp only [if_pos secret, Option.map_some, strip_redacted values]
      next notSecret =>
        simp only [if_neg notSecret]
        exact strip_redactNode values
    rw [redactPairs, redactPairs, map_stripAll_pair, map_stripAll_pair, redacted, later]

theorem strip_redactAll : ∀ {first second : List Node}, SameAll toLower SameShape first second →
    (redactAll toLower second).map stripAll = (redactAll toLower first).map stripAll
  | [], second, same => by
    obtain rfl : second = [] := same
    rfl
  | child :: rest, second, same => by
    rcases same with ⟨child', rest', rfl, values, others⟩
    have first := strip_redactNode values
    have later := strip_redactAll others
    rw [redactAll, redactAll, map_stripAll_cons, map_stripAll_cons, first, later]

end

/--
Two documents that differ only in the values and tags of scalars at or below
the values of secret-named keys have one output, and redaction leaves every
other node as it is.
-/
theorem redactYAML_noninterference (yaml : YamlCodec) {data data' : yaml.Bytes} {tag value : String}
    {style : Nat} {doc doc' : Node} {rest rest' : List Node}
    (decoded : yaml.decode data = .ok (.mk .document tag value style (doc :: rest)))
    (decoded' : yaml.decode data' = .ok (.mk .document tag value style (doc' :: rest')))
    (same : SameOutside toLower SameShape doc doc') :
    redactYAML toLower yaml data' = redactYAML toLower yaml data ∧
      ∀ result, redactNode toLower doc = some result →
        SameOutside toLower (fun val val' => val' = val.redacted) doc result := by
  refine ⟨?_, fun result => redactNode_same toLower⟩
  have stripped := strip_redactNode toLower same
  simp only [redactYAML, decoded, decoded', Node.content]
  cases first : redactNode toLower doc with
  | none =>
    rw [first, Option.map_none, Option.map_eq_none_iff] at stripped
    rw [stripped]
  | some result =>
    rw [first, Option.map_some, Option.map_eq_some_iff] at stripped
    rcases stripped with ⟨result', second, alike⟩
    rw [second]
    dsimp only
    rw [← yaml.encode_strip result', alike, yaml.encode_strip]

end

mutual

theorem strip_strip : ∀ node, strip (strip node) = strip node
  | .mk .scalar _ _ _ _ => rfl
  | .mk .mapping _ _ _ content => by simp only [strip, stripAll_stripAll content]
  | .mk .document _ _ _ content => by simp only [strip, stripAll_stripAll content]
  | .mk .sequence _ _ _ content => by simp only [strip, stripAll_stripAll content]

theorem stripAll_stripAll : ∀ nodes, stripAll (stripAll nodes) = stripAll nodes
  | [] => rfl
  | child :: rest => by simp only [stripAll, strip_strip child, stripAll_stripAll rest]

end

/-- Documents that are kept as trees. -/
def treeCodec : YamlCodec where
  Bytes := Node
  decode node := .ok (.mk .document "" "" 0 [node])
  encode node := .ok (strip node)
  encode_strip node := by rw [strip_strip]

/-- A database with a password. -/
def withPassword (password : String) : Node :=
  .mk .mapping "!!map" "" 0
    [.mk .scalar "!!str" "user" 0 [], .mk .scalar "!!str" "tpcc" 0 [],
      .mk .scalar "!!str" "Password" 0 [], .mk .scalar "!!str" password 0 []]

/-- Two documents that differ in a password. -/
theorem redactYAML_noninterference_password :
    SameOutside Char.toLower SameShape (withPassword "one") (withPassword "two") ∧
      redactYAML Char.toLower treeCodec (withPassword "two") =
        redactYAML Char.toLower treeCodec (withPassword "one") := by
  have user : isSecret Char.toLower (.mk .scalar "!!str" "user" 0 []) = false := by decide
  have password : isSecret Char.toLower (.mk .scalar "!!str" "Password" 0 []) = true := by decide
  have same : SameOutside Char.toLower SameShape (withPassword "one") (withPassword "two") := by
    refine ⟨_, rfl, _, _, rfl, ?_, _, _, rfl, ?_, rfl⟩
    · rw [if_neg (by rw [user]; decide)]
      exact rfl
    · rw [if_pos password]
      exact ⟨⟨rfl, rfl, fun notScalar => absurd rfl notScalar⟩, trivial⟩
  exact ⟨same, (redactYAML_noninterference Char.toLower treeCodec rfl rfl same).1⟩

end Redact

end PortableTpcc
