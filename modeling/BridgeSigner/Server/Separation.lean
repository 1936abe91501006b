import BridgeSigner.Foundation.Protobuf
import BridgeSigner.Server.Handlers

/-
  No signature of one operation is a signature of another
  (server/server.go, server/checkpoint.go,
  server/attestation.go, server/initial.go).

  All operations sign the SHA-256 of some string: of the
  transaction itself, or of 32 bytes. A transaction names an
  allowed message type inside three nested wire messages, so
  it is longer than 32 bytes as soon as the allowed types are
  long enough. Checkpoints and snapshots hash strings of
  different lengths.

  Key definitions include:
    * `wireSignDoc`, `wireTxBody`
    * `Libraries.DecodesWire`
    * `signedStrings`
    * `Served`

  Main results:
    * `Libraries.DecodesWire.signDoc_length`
    * `encodeCheckpointWords_ne_encodeAttestationArgs`
    * `digests_separated`
-/

------------------------------------------------------------
-- Transactions On The Wire
------------------------------------------------------------

namespace BridgeSigner

namespace Server

open Protobuf

/- Field 1 of a `SignDoc` is its body. -/
def wireSignDoc
    (b : Bytes) : Option SignDoc :=
  (decode b).map (fun fs => ⟨lastBytes 1 fs⟩)

/- Field 1 of an `Any` is its type. -/
def wireTypeUrl
    (b : Bytes) : Option Bytes :=
  (decode b).map (lastBytes 1)

def wireTypeUrls :
    List Bytes → Option (List Bytes)
| [] => some []
| b :: bs => do
    let url ← wireTypeUrl b
    let urls ← wireTypeUrls bs
    some (url :: urls)

/- Field 1 of a `TxBody` is repeated: the messages. -/
def wireTxBody
    (b : Bytes) : Option TxBody := do
  let fs ← decode b
  let urls ← wireTypeUrls (bytesFields 1 fs)
  some ⟨urls⟩

/- What the decoders accept, they read off the wire. -/
structure Libraries.DecodesWire
    (lib : Libraries) : Prop where
  signDoc :
    ∀ b doc, lib.decodeSignDoc b = .ok doc →
      wireSignDoc b = some doc
  txBody :
    ∀ b body, lib.decodeTxBody b = .ok body →
      wireTxBody b = some body

theorem wireTypeUrl_length
    {b url : Bytes}
    (hUrl : wireTypeUrl b = some url)
    (hNe : url ≠ []) :
    url.length + 2 ≤ b.length := by
  rcases Option.map_eq_some_iff.mp hUrl with ⟨fs, hDecode, rfl⟩
  exact length_lastBytes hDecode hNe

/- Every type comes from one of the messages. -/
theorem mem_wireTypeUrls
    {bs urls : List Bytes}
    (hUrls : wireTypeUrls bs = some urls)
    {url : Bytes}
    (hUrl : url ∈ urls) :
    ∃ b ∈ bs, wireTypeUrl b = some url := by
  induction bs generalizing urls with
  | nil =>
      cases hUrls
      cases hUrl
  | cons b bs ih =>
      rcases Option.bind_eq_some_iff.mp hUrls with
        ⟨first, hFirst, hUrls⟩
      rcases Option.bind_eq_some_iff.mp hUrls with
        ⟨rest, hRest, hSome⟩
      cases hSome
      rcases List.mem_cons.mp hUrl with rfl | hUrl
      · exact ⟨b, List.mem_cons_self, hFirst⟩
      · rcases ih hRest hUrl with ⟨c, hc, hTail⟩
        exact ⟨c, List.mem_cons_of_mem b hc, hTail⟩

/- The length that a transaction with this type needs. -/
def LongEnough
    (url signDoc : Bytes) : Prop :=
  4 ≤ signDoc.length ∧
    (url ≠ [] → url.length + 6 ≤ signDoc.length)

theorem Libraries.DecodesWire.signDoc_length
    {lib : Libraries}
    (hWire : lib.DecodesWire)
    {signDoc : Bytes}
    {doc : SignDoc}
    {body : TxBody}
    (hDoc : lib.decodeSignDoc signDoc = .ok doc)
    (hBody : lib.decodeTxBody doc.bodyBytes = .ok body)
    {url : Bytes}
    (hUrl : url ∈ body.typeUrls) :
    LongEnough url signDoc := by
  -- From the inside out: type, message, body, document.
  rcases Option.bind_eq_some_iff.mp (hWire.txBody _ _ hBody) with
    ⟨fs, hFields, hBody⟩
  rcases Option.bind_eq_some_iff.mp hBody with
    ⟨urls, hUrls, hSome⟩
  cases hSome
  rcases mem_wireTypeUrls hUrls hUrl with ⟨b, hb, hType⟩
  rcases Option.map_eq_some_iff.mp (hWire.signDoc _ _ hDoc) with
    ⟨gs, hGs, rfl⟩
  have hMessage : b.length + 2 ≤ (lastBytes 1 gs).length :=
    length_of_mem_decode hFields hb
  have hBodyNe : lastBytes 1 gs ≠ [] := by
    apply List.ne_nil_of_length_pos
    omega
  have hOuter := length_lastBytes hGs hBodyNe
  refine ⟨by omega, ?_⟩
  intro hNe
  have hInner := wireTypeUrl_length hType hNe
  omega

end Server

end BridgeSigner

------------------------------------------------------------
-- Checkpoints And Snapshots
------------------------------------------------------------

namespace BridgeSigner

namespace Server

theorem length_encodeCheckpointWords
    (sep setHash : Bytes)
    (threshold timestamp : UInt64) :
    (encodeCheckpointWords sep threshold timestamp
      setHash).length = 128 := by
  have hWords :
      encodeCheckpointWords sep threshold timestamp setHash =
        [padRight 32 sep, Abi.uint256 threshold.toNat,
          Abi.uint256 timestamp.toNat,
          padRight 32 setHash].flatten :=
    Abi.pack_words
      [padRight 32 sep, Abi.uint256 threshold.toNat,
        Abi.uint256 timestamp.toNat, padRight 32 setHash]
  simp [hWords]

theorem le_length_encodeAttestationArgs
    (req : SignOracleAttestationRequest) :
    320 ≤ (encodeAttestationArgs req).length := by
  unfold encodeAttestationArgs
  refine le_trans (le_of_eq ?_) (Abi.le_length_pack ?_)
  · rfl
  · simp [Abi.Value.Sized]

/- Whatever the value, the two are told apart by length. -/
theorem encodeCheckpointWords_ne_encodeAttestationArgs
    (sep setHash : Bytes)
    (threshold timestamp : UInt64)
    (req : SignOracleAttestationRequest) :
    encodeCheckpointWords sep threshold timestamp setHash ≠
      encodeAttestationArgs req := by
  intro hEq
  have hArgs := le_length_encodeAttestationArgs req
  rw [← hEq, length_encodeCheckpointWords] at hArgs
  omega

end Server

end BridgeSigner

------------------------------------------------------------
-- What Is Signed
------------------------------------------------------------

namespace BridgeSigner

namespace Server

/- The hash functions return 32 bytes. -/
structure Libraries.HashesTo32
    (lib : Libraries) : Prop where
  sha256 : ∀ b, (lib.sha256 b).length = 32
  keccak256 : ∀ b, (lib.keccak256 b).length = 32

/- The strings whose SHA-256 is signed for a request. -/
def signedStrings
    (sha256 : Bytes → Bytes) :
    Request → List Bytes
| .signTx signDoc _ => [signDoc]
| .signBridgeCheckpoint req => [req.expectedCheckpoint]
| .signOracleAttestation req => [req.expectedSnapshot]
| .signInitial operatorAddress _ =>
    let messages :=
      initialRegistrationMessages operatorAddress
    [sha256 messages.1, sha256 messages.2]
| _ => []

/- The strings whose Keccak-256 is signed for a request. -/
def preimages : Request → List Bytes
| .signBridgeCheckpoint req =>
    [encodeCheckpointWords req.domainSeparator
      req.powerThreshold req.validatorTimestamp
      req.validatorSetHash]
| .signOracleAttestation req => [encodeAttestationArgs req]
| _ => []

/- The requests of the backend calls of a world. -/
def World.requests
    (w : World) : List Request :=
  w.calls.map BackendCall.request

/-
  A world that some sequence of RPCs leads to, on a server
  built from this configuration.
-/
def Served
    (lib : Libraries)
    (cfg : Config)
    (w : World) : Prop :=
  ∃ publicKey file srv g disk rpcs,
    newServer lib publicKey cfg file = .ok (srv, g) ∧
      srv.rpcs.run ⟨g, disk, []⟩ rpcs = some w

/- Every backend call of such a world is scoped. -/
theorem Served.scoped
    {lib : Libraries}
    {cfg : Config}
    {w : World}
    (hServed : Served lib cfg w) :
    ∃ srv : BridgeSignerServer,
      srv.lib = lib ∧
        srv.allowedMsgTypes = cfg.allowedMsgTypes ∧
        ∀ call ∈ w.calls, Scoped srv call := by
  rcases hServed with
    ⟨publicKey, file, srv, g, disk, rpcs, hNew, hRun⟩
  rcases newServer_ok hNew with ⟨⟨pubKey, -, hActs⟩, -⟩
  exact ⟨srv, hActs.libraries, hActs.allowed,
    (BridgeSignerServer.rpcs_sound hNew hRun).allScoped⟩

/- A scoped call signs one of its request's strings. -/
theorem Scoped.signed
    {srv : BridgeSignerServer}
    {call : BackendCall}
    (hScoped : Scoped srv call) :
    ∃ x ∈ signedStrings srv.lib.sha256 call.request,
      call.digest = srv.lib.sha256 x := by
  rcases call with ⟨request, mark, digest⟩
  cases request with
  | signTx signDoc requestId =>
      exact ⟨signDoc, List.mem_singleton_self _, hScoped.1⟩
  | signBridgeCheckpoint req =>
      rcases hScoped with ⟨c, hDigest, hRecomputed, -⟩
      refine ⟨c, ?_, hDigest⟩
      rw [hRecomputed.expected]
      exact List.mem_singleton_self _
  | signOracleAttestation req =>
      exact ⟨req.expectedSnapshot, List.mem_singleton_self _,
        hScoped.1⟩
  | signInitial operatorAddress requestId =>
      rcases hScoped.1 with hDigest | hDigest
      · exact ⟨_, List.mem_cons_self, hDigest⟩
      · exact ⟨_, List.mem_cons_of_mem _
          (List.mem_singleton_self _), hDigest⟩
  | _ => exact hScoped.elim

/- All operations but `SignTx` sign 32 bytes. -/
theorem Scoped.length_signed
    {srv : BridgeSignerServer}
    {call : BackendCall}
    (hHashes : srv.lib.HashesTo32)
    (hScoped : Scoped srv call)
    (hMethod : call.request.method ≠ .signTx)
    {x : Bytes}
    (hx : x ∈ signedStrings srv.lib.sha256 call.request) :
    x.length = 32 := by
  rcases call with ⟨request, mark, digest⟩
  cases request with
  | signTx signDoc requestId => exact absurd rfl hMethod
  | signBridgeCheckpoint req =>
      rcases hScoped with ⟨c, -, hRecomputed, -⟩
      rw [List.mem_singleton.mp hx]
      exact hRecomputed.expected_length
  | signOracleAttestation req =>
      rw [List.mem_singleton.mp hx, ← hScoped.2]
      exact hHashes.keccak256 _
  | signInitial operatorAddress requestId =>
      rcases List.mem_cons.mp hx with rfl | hx
      · exact hHashes.sha256 _
      · rw [List.mem_singleton.mp hx]
        exact hHashes.sha256 _
  | _ => exact hScoped.elim

end Server

end BridgeSigner

------------------------------------------------------------
-- Separation
------------------------------------------------------------

namespace BridgeSigner

namespace Server

variable {lib : Libraries}
variable {cfg cfg' : Config}
variable {w w' : World}

/- Every transaction that was signed is long enough. -/
theorem Served.signDoc_length
    (hServed : Served lib cfg w)
    (hWire : lib.DecodesWire)
    {call : BackendCall}
    (hCall : call ∈ w.calls)
    {signDoc requestId : Bytes}
    (hRequest : call.request = .signTx signDoc requestId) :
    ∃ url ∈ cfg.allowedMsgTypes, LongEnough url signDoc := by
  rcases hServed.scoped with ⟨srv, rfl, hAllowed, hScoped⟩
  have hTx := hScoped call hCall
  rw [Scoped, hRequest] at hTx
  rcases hTx with ⟨-, doc, body, hDoc, hBody, hNe, hTypes⟩
  rcases List.exists_mem_of_ne_nil _ hNe with ⟨url, hUrl⟩
  exact ⟨url, hAllowed ▸ hTypes url hUrl,
    hWire.signDoc_length hDoc hBody hUrl⟩

/- The strings of a call are among those of both runs. -/
theorem mem_of_call_left
    {f : Request → List Bytes}
    {call : BackendCall}
    {x : Bytes}
    (hCall : call ∈ w.calls)
    (hx : x ∈ f call.request) :
    x ∈ (w.requests ++ w'.requests).flatMap f :=
  List.mem_flatMap.mpr
    ⟨call.request,
      List.mem_append_left _ (List.mem_map_of_mem hCall), hx⟩

theorem mem_of_call_right
    {f : Request → List Bytes}
    {call : BackendCall}
    {x : Bytes}
    (hCall : call ∈ w'.calls)
    (hx : x ∈ f call.request) :
    x ∈ (w.requests ++ w'.requests).flatMap f :=
  List.mem_flatMap.mpr
    ⟨call.request,
      List.mem_append_right _ (List.mem_map_of_mem hCall), hx⟩

theorem method_checkpoint
    {request : Request}
    (hMethod : request.method = .signBridgeCheckpoint) :
    ∃ req, request = .signBridgeCheckpoint req := by
  cases request with
  | signBridgeCheckpoint req => exact ⟨req, rfl⟩
  | _ => cases hMethod

theorem method_attestation
    {request : Request}
    (hMethod : request.method = .signOracleAttestation) :
    ∃ req, request = .signOracleAttestation req := by
  cases request with
  | signOracleAttestation req => exact ⟨req, rfl⟩
  | _ => cases hMethod

/- A checkpoint or a snapshot is the hash of its preimage. -/
theorem Served.preimage
    (hServed : Served lib cfg w)
    {call : BackendCall}
    (hCall : call ∈ w.calls)
    (hMethod :
      call.request.method = .signBridgeCheckpoint ∨
        call.request.method = .signOracleAttestation)
    {x : Bytes}
    (hx : x ∈ signedStrings lib.sha256 call.request) :
    ∃ p ∈ preimages call.request, lib.keccak256 p = x := by
  rcases hServed.scoped with ⟨srv, rfl, -, hScoped⟩
  have hCallScoped := hScoped call hCall
  rcases hMethod with hMethod | hMethod
  · rcases method_checkpoint hMethod with ⟨req, hReq⟩
    rw [Scoped, hReq] at hCallScoped
    rw [hReq] at hx ⊢
    rcases hCallScoped with ⟨c, -, hRecomputed, -⟩
    refine ⟨_, List.mem_singleton_self _, ?_⟩
    rw [List.mem_singleton.mp hx, ← hRecomputed.expected]
    exact hRecomputed.checkpoint
  · rcases method_attestation hMethod with ⟨req, hReq⟩
    rw [Scoped, hReq] at hCallScoped
    rw [hReq] at hx ⊢
    refine ⟨_, List.mem_singleton_self _, ?_⟩
    rw [List.mem_singleton.mp hx]
    exact hCallScoped.2

/- Equal digests are digests of one string. -/
theorem Served.same_string
    (hServed : Served lib cfg w)
    (hServed' : Served lib cfg' w')
    (hFree :
      CollisionFree lib.sha256
        ((w.requests ++ w'.requests).flatMap
          (signedStrings lib.sha256)))
    {call call' : BackendCall}
    (hCall : call ∈ w.calls)
    (hCall' : call' ∈ w'.calls)
    (hEq : call.digest = call'.digest) :
    ∃ x,
      x ∈ signedStrings lib.sha256 call.request ∧
        x ∈ signedStrings lib.sha256 call'.request := by
  rcases hServed.scoped with ⟨srv, rfl, -, hScoped⟩
  rcases hServed'.scoped with ⟨srv', hLib, -, hScoped'⟩
  rcases (hScoped call hCall).signed with ⟨x, hx, hDigest⟩
  rcases (hScoped' call' hCall').signed with ⟨y, hy, hDigest'⟩
  rw [hLib] at hy hDigest'
  have hSame : x = y := by
    apply hFree x _ y _
      (hDigest.symm.trans (hEq.trans hDigest'))
    · exact mem_of_call_left hCall hx
    · exact mem_of_call_right hCall' hy
  exact ⟨x, hx, hSame ▸ hy⟩

/-
  Signatures cannot be carried from one operation to another.
  Over any two runs, of servers with any configurations:
  every transaction signed has at least six bytes more than
  some allowed type, when the types are not empty. When all
  of them have at least 27 bytes, no transaction signed has 32
  bytes, and its digest is no digest of the other operations.
  Checkpoints and snapshots hash different strings, and no
  checkpoint digest is an attestation digest.
-/
theorem digests_separated
    (hWire : lib.DecodesWire)
    (hHashes : lib.HashesTo32)
    (hServed : Served lib cfg w)
    (hServed' : Served lib cfg' w')
    (hSha :
      CollisionFree lib.sha256
        ((w.requests ++ w'.requests).flatMap
          (signedStrings lib.sha256)))
    (hKeccak :
      CollisionFree lib.keccak256
        ((w.requests ++ w'.requests).flatMap preimages)) :
    (∀ call ∈ w.calls, ∀ signDoc requestId,
        call.request = .signTx signDoc requestId →
          (∀ n,
            (∀ url ∈ cfg.allowedMsgTypes,
                url ≠ [] ∧ n ≤ url.length) →
              6 + n ≤ signDoc.length) ∧
          ((∀ url ∈ cfg.allowedMsgTypes, 27 ≤ url.length) →
            signDoc.length ≠ 32 ∧
              ∀ call' ∈ w'.calls,
                call'.request.method ≠ .signTx →
                  call.digest ≠ call'.digest)) ∧
      (∀ sep threshold timestamp setHash req,
        (encodeCheckpointWords sep threshold timestamp
            setHash).length = 128 ∧
          encodeCheckpointWords sep threshold timestamp
              setHash ≠
            encodeAttestationArgs req) ∧
      ∀ call ∈ w.calls, ∀ call' ∈ w'.calls,
        call.request.method = .signBridgeCheckpoint →
          call'.request.method = .signOracleAttestation →
            call.digest ≠ call'.digest := by
  refine ⟨?_, ?_, ?_⟩
  · intro call hCall signDoc requestId hRequest
    rcases hServed.signDoc_length hWire hCall hRequest with
      ⟨url, hUrl, hLong⟩
    refine ⟨?_, ?_⟩
    · intro n hAll
      have hSix := hLong.2 (hAll url hUrl).1
      have hMin := (hAll url hUrl).2
      omega
    · intro hAll
      have hMin := hAll url hUrl
      have hSix := hLong.2 (List.ne_nil_of_length_pos
        (by omega))
      refine ⟨by omega, ?_⟩
      intro call' hCall' hMethod hEq
      rcases hServed.same_string hServed' hSha hCall hCall' hEq with
        ⟨x, hx, hx'⟩
      rcases hServed'.scoped with ⟨srv', rfl, -, hScoped'⟩
      have hShort :=
        (hScoped' call' hCall').length_signed hHashes hMethod
          hx'
      rw [hRequest] at hx
      rw [List.mem_singleton.mp hx] at hShort
      omega
  · intro sep threshold timestamp setHash req
    exact ⟨length_encodeCheckpointWords _ _ _ _,
      encodeCheckpointWords_ne_encodeAttestationArgs
        _ _ _ _ _⟩
  · intro call hCall call' hCall' hMethod hMethod' hEq
    rcases hServed.same_string hServed' hSha hCall hCall' hEq with
      ⟨x, hx, hx'⟩
    rcases hServed.preimage hCall (Or.inl hMethod) hx with
      ⟨p, hp, hHash⟩
    rcases hServed'.preimage hCall' (Or.inr hMethod') hx' with
      ⟨p', hp', hHash'⟩
    have hSame : p = p' := by
      apply hKeccak p _ p' _ (hHash.trans hHash'.symm)
      · exact mem_of_call_left hCall hp
      · exact mem_of_call_right hCall' hp'
    rcases method_checkpoint hMethod with ⟨req, hReq⟩
    rcases method_attestation hMethod' with ⟨req', hReq'⟩
    rw [hReq] at hp
    rw [hReq'] at hp'
    rw [List.mem_singleton.mp hp,
      List.mem_singleton.mp hp'] at hSame
    exact encodeCheckpointWords_ne_encodeAttestationArgs
      _ _ _ _ _ hSame

end Server

end BridgeSigner

------------------------------------------------------------
-- The Fixed Requests
------------------------------------------------------------

namespace BridgeSigner

namespace Server

open BridgeSignerServer

/- Accept exactly what can be read off the wire. -/
def orUnreadable
    {α : Type} :
    Option α → Fallible α
| some a => .ok a
| none => .error (ascii "unexpected EOF")

/-
  Libraries that decode the wire and return 32 bytes of hash,
  also where the given ones know no hash.
-/
def Libraries.onWire
    (lib : Libraries) : Libraries :=
  { lib with
    sha256 := fun b => padRight 32 (lib.sha256 b)
    keccak256 := fun b => padRight 32 (lib.keccak256 b)
    decodeSignDoc := fun b => orUnreadable (wireSignDoc b)
    decodeTxBody := fun b => orUnreadable (wireTxBody b) }

theorem orUnreadable_ok_iff
    {α : Type}
    {o : Option α}
    {a : α} :
    orUnreadable o = .ok a ↔ o = some a := by
  cases o with
  | none => simp [orUnreadable]
  | some b => simp [orUnreadable]

theorem Libraries.onWire_decodesWire
    (lib : Libraries) :
    lib.onWire.DecodesWire where
  signDoc := fun _ _ hDoc => orUnreadable_ok_iff.mp hDoc
  txBody := fun _ _ hBody => orUnreadable_ok_iff.mp hBody

theorem Libraries.onWire_hashesTo32
    (lib : Libraries) :
    lib.onWire.HashesTo32 where
  sha256 := fun _ => length_padRight 32 _
  keccak256 := fun _ => length_padRight 32 _

def wireServer : BridgeSignerServer :=
  { fixedServer with lib := fixedLibraries.onWire }

/- What some of the fixed requests leave behind. -/
def wireRun
    (rpcs : List (Surroundings × Request)) : Option World :=
  wireServer.rpcs.run
    ⟨bareGuard fixedServer.statePath 0, ⟨none, none⟩, []⟩
    rpcs

theorem served_of_wireRun
    {rpcs : List (Surroundings × Request)}
    {w : World}
    (hRun : wireRun rpcs = some w) :
    Served fixedLibraries.onWire fixedConfig w :=
  ⟨.ok fixedKey, .notExist, wireServer, _, ⟨none, none⟩,
    rpcs, rfl, hRun⟩

/- The hashes are free of collisions on these two runs. -/
def freeOn
    (w w' : World) : Bool :=
  let requests := w.requests ++ w'.requests
  decide
      (CollisionFree fixedLibraries.onWire.sha256
        (requests.flatMap
          (signedStrings fixedLibraries.onWire.sha256))) &&
    decide
      (CollisionFree fixedLibraries.onWire.keccak256
        (requests.flatMap preimages))

/- A transaction in one run, a checkpoint in another. -/
theorem fixed_digests_separated :
    ∃ w w',
      wireRun (fixedRPCs.take 2) = some w ∧
        wireRun ((fixedRPCs.drop 2).take 1) = some w' ∧
        w.calls.length = 1 ∧
        w'.calls.length = 1 ∧
        ∀ call ∈ w.calls,
          call.request = .signTx fixedSignDoc [] →
            fixedSignDoc.length ≠ 32 ∧
              ∀ call' ∈ w'.calls,
                call'.request.method ≠ .signTx →
                  call.digest ≠ call'.digest := by
  have hRuns :
      ((wireRun (fixedRPCs.take 2)).bind fun w =>
        (wireRun ((fixedRPCs.drop 2).take 1)).map fun w' =>
          (w.calls.length, w'.calls.length, freeOn w w')) =
        some (1, 1, true) := by
    decide +kernel
  rcases Option.bind_eq_some_iff.mp hRuns with ⟨w, hRun, hRuns⟩
  rcases Option.map_eq_some_iff.mp hRuns with ⟨w', hRun', hEq⟩
  rcases Prod.mk.inj hEq with ⟨hCalls, hEq⟩
  rcases Prod.mk.inj hEq with ⟨hCalls', hFree⟩
  rcases Bool.and_eq_true_iff.mp hFree with ⟨hSha, hKeccak⟩
  have hSeparated :=
    digests_separated fixedLibraries.onWire_decodesWire
      fixedLibraries.onWire_hashesTo32
      (served_of_wireRun hRun) (served_of_wireRun hRun')
      (of_decide_eq_true hSha) (of_decide_eq_true hKeccak)
  refine ⟨w, w', hRun, hRun', hCalls, hCalls', ?_⟩
  intro call hCall hRequest
  exact (hSeparated.1 call hCall _ _ hRequest).2 (by decide)

/- A transaction of one message whose type is empty. -/
def emptyTypeDoc : Bytes :=
  [0x0a, 2, 0x0a, 0]

/- A server that allows the empty type. -/
def emptyTypeServer : BridgeSignerServer :=
  { fixedServer with
    allowedMsgTypes := [[]]
    lib :=
      { fixedLibraries.onWire with
        sha256 := table
          [(emptyTypeDoc,
            beBytes 32
              0x06d93673413ba3294abc0e3397381a4415ed379ce621fe916baff745983d1b8c)] } }

/- Four bytes are signed where the shortest type is empty. -/
theorem empty_type_signed :
    (emptyTypeServer.handle
        (signing
          [(0x20dbc2ec0cbdc852f91f1ac67006884f3b40d56cb6649c6b10d514a70e8c0b4c,
            0x53954f8b2d0fdd9b609de31dde751dc96fd2b3d867d9a1c677e295d17f5a7d7)])
        ⟨bareGuard fixedServer.statePath 0, ⟨none, none⟩, []⟩
        (.signTx emptyTypeDoc [])).1.isOk = true ∧
      emptyTypeServer.allowedMsgTypes = [[]] ∧
      emptyTypeDoc.length < 6 + ([] : Bytes).length := by
  refine ⟨by decide +kernel, rfl, by decide⟩

end Server

end BridgeSigner
