import RcDiscover.Addresses
import RcDiscover.Cli.Safety
import RcDiscover.ForceIP

/-!
# The addresses of `forceip` on the wire

From the command line to the datagrams: `runForceIP` parses its last three arguments, assembles the
numbers and hands them to `ForceIP::sendCommand`, which takes them apart again.

`forceIP_intact` (**main result**): the datagrams carry the parameters of the call, and those of a
command that `forceip` issues are the addresses that the user has written.
-/

namespace RcDiscover
namespace Cli

open Program BigEndian
open Discover (Tolerated)
open ForceIP (Intact)

/-- A printed address is parsed to the number that it was printed from. -/
theorem toNat_eq_of_string2ip {a x : UInt32} {bytes : List UInt8}
    (h : string2ip (ip2string a) = .ok bytes) (hx : x.toNat = value bytes) : x = a := by
  rw [string2ip_ip2string, Except.ok.injEq] at h
  rw [← UInt32.toNat_inj, hx, ← h]
  exact value_digits_of_lt a.toNat_lt

/-- The addresses of a warranted command are the last three arguments. -/
theorem Warrant.eq_forceIP {env : CliEnv} {pre : List Str} {a b g : UInt32} {c : Command}
    (h : Warrant env .forceip (pre ++ [ip2string a, ip2string b, ip2string g]) c) :
    ∃ mac, c = .forceIP mac a b g := by
  generalize hargv : pre ++ [ip2string a, ip2string b, ip2string g] = argv at h
  cases h with
  | @forceip opts mac argIp argMask argGateway ip mask gateway x y z _ hip hmask hgateway hx hy
      hz =>
    obtain ⟨-, hlast⟩ := List.append_inj' hargv rfl
    simp only [List.cons.injEq, and_true] at hlast
    obtain ⟨rfl, rfl, rfl⟩ := hlast
    exact ⟨mac, by rw [toNat_eq_of_string2ip hip hx, toNat_eq_of_string2ip hmask hy,
      toNat_eq_of_string2ip hgateway hz]⟩

/-- What `forceip` issues has the addresses that the user has written. -/
theorem eq_forceIP_of_issued (env : CliEnv) (command : Str) (args : List Str)
    (ip subnet gateway : UInt32) (c : Command)
    (hc : .issued c ∈ (exec (runForceIP env command
      (args ++ [ip2string ip, ip2string subnet, ip2string gateway])) []).2) :
    ∃ mac, c = .forceIP mac ip subnet gateway :=
  ((issues_runForceIP env command _).only c hc).eq_forceIP

/-- **The parameters of FORCEIP arrive as they are given**, whichever networks are unreachable and
whatever ids other threads draw meanwhile, and `forceip` gives the addresses that the user has
written, so that these are read back from the datagrams of its command. -/
theorem forceIP_intact :
    (∀ (σ : Type) (x : Surroundings σ) (obj : ForceIP) (mac : UInt64) (ip subnet gateway : UInt32)
        (n : ℕ) (s : σ),
      let run := exec (obj.sendCommand x.env.logged mac ip subnet gateway) ((n, s), [])
      (∀ c ∈ run.2.2, Tolerated c.thrown) →
        Intact mac ip subnet gateway obj.sockets.length (run.2.1.1 - n) run.1 run.2.2) ∧
    ∀ (env : CliEnv) (command : Str) (args : List Str) (ip subnet gateway : UInt32) (c : Command),
      .issued c ∈ (exec (runForceIP env command
          (args ++ [ip2string ip, ip2string subnet, ip2string gateway])) []).2 →
        ∃ mac, c = .forceIP mac ip subnet gateway ∧
          ∀ (σ : Type) (x : Surroundings σ) (obj : ForceIP) (a b g : UInt32) (n : ℕ) (s : σ),
            c = .forceIP mac a b g →
              let run := exec (obj.sendCommand x.env.logged mac a b g) ((n, s), [])
              (∀ call ∈ run.2.2, Tolerated call.thrown) →
                Intact mac ip subnet gateway obj.sockets.length (run.2.1.1 - n) run.1 run.2.2 := by
  refine ⟨fun _ x obj mac ip subnet gateway n s =>
    ForceIP.sendCommand_intact x obj mac ip subnet gateway n s, ?_⟩
  intro env command args ip subnet gateway c hc
  obtain ⟨mac, rfl⟩ := eq_forceIP_of_issued env command args ip subnet gateway c hc
  refine ⟨mac, rfl, ?_⟩
  rintro σ x obj a b g n s heq
  simp only [Command.forceIP.injEq, true_and] at heq
  obtain ⟨rfl, rfl, rfl⟩ := heq
  exact ForceIP.sendCommand_intact x obj mac ip subnet gateway n s

/-- The network of the first socket is unreachable, and another thread draws an id in front of each
of this one. -/
def noFirstRoute : Surroundings Unit where
  othersDraw s := (1, s)
  send k _ s := (if k = 0 then .error (.networkUnreachableException [] 101) else .ok (), s)

/-- Two sockets of which the first has no route. -/
theorem forceIP_intact_no_first_route :
    Intact 0x00142D000001 0x0A000002 0xFF000000 0x0A000001 2 4 (.ok ())
      (exec (ForceIP.sendCommand noFirstRoute.env.logged ⟨["eth0".toList, "eth1".toList]⟩
        0x00142D000001 0x0A000002 0xFF000000 0x0A000001) ((0, ()), [])).2.2 := by
  refine forceIP_intact.1 Unit noFirstRoute ⟨["eth0".toList, "eth1".toList]⟩ 0x00142D000001
    0x0A000002 0xFF000000 0x0A000001 0 () fun c hc => ?_
  have hthrown := List.mem_map_of_mem (f := SendCall.thrown) hc
  have hall : ∀ t ∈ [some (.networkUnreachableException [] 101), none], Tolerated t := by
    rintro t ht
    simp only [List.mem_cons, List.not_mem_nil, or_false] at ht
    rcases ht with rfl | rfl
    · exact trivial
    · exact trivial
  exact hall _ hthrown

end Cli
end RcDiscover
