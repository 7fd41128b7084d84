import HostLookup.Settings
import HostLookup.Text.Description

/-! The text that describes settings. -/
namespace HostLookup.Settings
open Text Description

def text (s : Settings) : String :=
  whole "ChannelParams"
    [("flags", optional (fun n => Numeral.ofInt n.toInt) s.flags),
     ("timeout", optional Duration.text s.timeout),
     ("tries", optional (fun n => Numeral.ofNat n.toNat) s.tries),
     ("ndots", optional (fun n => Numeral.ofNat n.toNat) s.ndots),
     ("udp_port", optional (fun n => Numeral.ofNat n.toNat) s.udpPort),
     ("tcp_port", optional (fun n => Numeral.ofNat n.toNat) s.tcpPort),
     ("servers", optional (fun names => list (names.map quote)) s.servers)]

end HostLookup.Settings
