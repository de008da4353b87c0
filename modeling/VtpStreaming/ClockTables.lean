import VtpStreaming.Clib.Bytes

/-!
# The register tables of the clock chip

`vtp/si5341_cfg.c`, `si5431_regs_local`, `si5431_regs_vxs_250` and `si5431_regs_vxs_125`:
addresses and values, in the order in which they are written.
-/

namespace VtpStreaming

open Clib

def si5431RegsLocal : List (BitVec 16 × Byte) :=
  [(0x0B24#16, 0xD8#8), (0x0B25#16, 0x00#8), (0x000B#16, 0x74#8), (0x0017#16, 0x30#8),
   (0x0018#16, 0xFF#8), (0x0021#16, 0x0F#8), (0x0022#16, 0x00#8), (0x002B#16, 0x02#8),
   (0x002C#16, 0x20#8), (0x002D#16, 0x00#8), (0x002E#16, 0x00#8), (0x002F#16, 0x00#8),
   (0x0030#16, 0x00#8), (0x0031#16, 0x00#8), (0x0032#16, 0x00#8), (0x0033#16, 0x00#8),
   (0x0034#16, 0x00#8), (0x0035#16, 0x00#8), (0x0036#16, 0x00#8), (0x0037#16, 0x00#8),
   (0x0038#16, 0x00#8), (0x0039#16, 0x00#8), (0x003A#16, 0x00#8), (0x003B#16, 0x00#8),
   (0x003C#16, 0x00#8), (0x003D#16, 0x00#8), (0x0041#16, 0x00#8), (0x0042#16, 0x00#8),
   (0x0043#16, 0x00#8), (0x0044#16, 0x00#8), (0x009E#16, 0x00#8), (0x0102#16, 0x01#8),
   (0x0108#16, 0x06#8), (0x0109#16, 0x09#8), (0x010A#16, 0x3D#8), (0x010B#16, 0x00#8),
   (0x010D#16, 0x06#8), (0x010E#16, 0x09#8), (0x010F#16, 0x3D#8), (0x0110#16, 0x02#8),
   (0x0112#16, 0x01#8), (0x0113#16, 0x09#8), (0x0114#16, 0x3B#8), (0x0115#16, 0x00#8),
   (0x0117#16, 0x06#8), (0x0118#16, 0x09#8), (0x0119#16, 0x3D#8), (0x011A#16, 0x02#8),
   (0x011C#16, 0x01#8), (0x011D#16, 0x09#8), (0x011E#16, 0x3B#8), (0x011F#16, 0x00#8),
   (0x0121#16, 0x06#8), (0x0122#16, 0x09#8), (0x0123#16, 0x3D#8), (0x0124#16, 0x01#8),
   (0x0126#16, 0x01#8), (0x0127#16, 0x09#8), (0x0128#16, 0x3B#8), (0x0129#16, 0x00#8),
   (0x012B#16, 0x06#8), (0x012C#16, 0x09#8), (0x012D#16, 0x3D#8), (0x012E#16, 0x00#8),
   (0x0130#16, 0x06#8), (0x0131#16, 0x09#8), (0x0132#16, 0x3D#8), (0x0133#16, 0x01#8),
   (0x013A#16, 0x01#8), (0x013B#16, 0x09#8), (0x013C#16, 0x3D#8), (0x013D#16, 0x00#8),
   (0x013F#16, 0x00#8), (0x0140#16, 0x00#8), (0x0141#16, 0x40#8), (0x0202#16, 0x00#8),
   (0x0203#16, 0x00#8), (0x0204#16, 0x00#8), (0x0205#16, 0x00#8), (0x0206#16, 0x00#8),
   (0x0208#16, 0x00#8), (0x0209#16, 0x00#8), (0x020A#16, 0x00#8), (0x020B#16, 0x00#8),
   (0x020C#16, 0x00#8), (0x020D#16, 0x00#8), (0x020E#16, 0x00#8), (0x020F#16, 0x00#8),
   (0x0210#16, 0x00#8), (0x0211#16, 0x00#8), (0x0212#16, 0x00#8), (0x0213#16, 0x00#8),
   (0x0214#16, 0x00#8), (0x0215#16, 0x00#8), (0x0216#16, 0x00#8), (0x0217#16, 0x00#8),
   (0x0218#16, 0x00#8), (0x0219#16, 0x00#8), (0x021A#16, 0x00#8), (0x021B#16, 0x00#8),
   (0x021C#16, 0x00#8), (0x021D#16, 0x00#8), (0x021E#16, 0x00#8), (0x021F#16, 0x00#8),
   (0x0220#16, 0x00#8), (0x0221#16, 0x00#8), (0x0222#16, 0x00#8), (0x0223#16, 0x00#8),
   (0x0224#16, 0x00#8), (0x0225#16, 0x00#8), (0x0226#16, 0x00#8), (0x0227#16, 0x00#8),
   (0x0228#16, 0x00#8), (0x0229#16, 0x00#8), (0x022A#16, 0x00#8), (0x022B#16, 0x00#8),
   (0x022C#16, 0x00#8), (0x022D#16, 0x00#8), (0x022E#16, 0x00#8), (0x022F#16, 0x00#8),
   (0x0235#16, 0x00#8), (0x0236#16, 0x00#8), (0x0237#16, 0x00#8), (0x0238#16, 0xA0#8),
   (0x0239#16, 0x8C#8), (0x023A#16, 0x00#8), (0x023B#16, 0x00#8), (0x023C#16, 0x00#8),
   (0x023D#16, 0x00#8), (0x023E#16, 0x80#8), (0x024A#16, 0x00#8), (0x024B#16, 0x00#8),
   (0x024C#16, 0x00#8), (0x024D#16, 0x00#8), (0x024E#16, 0x00#8), (0x024F#16, 0x00#8),
   (0x0250#16, 0x00#8), (0x0251#16, 0x00#8), (0x0252#16, 0x00#8), (0x0253#16, 0x00#8),
   (0x0254#16, 0x00#8), (0x0255#16, 0x00#8), (0x0256#16, 0x00#8), (0x0257#16, 0x00#8),
   (0x0258#16, 0x00#8), (0x0259#16, 0x00#8), (0x025A#16, 0x00#8), (0x025B#16, 0x00#8),
   (0x025C#16, 0x00#8), (0x025D#16, 0x00#8), (0x025E#16, 0x00#8), (0x025F#16, 0x00#8),
   (0x0260#16, 0x00#8), (0x0261#16, 0x00#8), (0x0262#16, 0x00#8), (0x0263#16, 0x00#8),
   (0x0264#16, 0x00#8), (0x0268#16, 0x00#8), (0x0269#16, 0x00#8), (0x026A#16, 0x00#8),
   (0x026B#16, 0x44#8), (0x026C#16, 0x45#8), (0x026D#16, 0x46#8), (0x026E#16, 0x41#8),
   (0x026F#16, 0x55#8), (0x0270#16, 0x4C#8), (0x0271#16, 0x54#8), (0x0272#16, 0x00#8),
   (0x0302#16, 0x00#8), (0x0303#16, 0x00#8), (0x0304#16, 0x00#8), (0x0305#16, 0x80#8),
   (0x0306#16, 0x0D#8), (0x0307#16, 0x00#8), (0x0308#16, 0x00#8), (0x0309#16, 0x00#8),
   (0x030A#16, 0x00#8), (0x030B#16, 0x80#8), (0x030D#16, 0x00#8), (0x030E#16, 0x00#8),
   (0x030F#16, 0x00#8), (0x0310#16, 0x00#8), (0x0311#16, 0x1B#8), (0x0312#16, 0x00#8),
   (0x0313#16, 0x00#8), (0x0314#16, 0x00#8), (0x0315#16, 0x00#8), (0x0316#16, 0xA0#8),
   (0x0318#16, 0x00#8), (0x0319#16, 0x00#8), (0x031A#16, 0x00#8), (0x031B#16, 0x70#8),
   (0x031C#16, 0x08#8), (0x031D#16, 0x00#8), (0x031E#16, 0x00#8), (0x031F#16, 0x00#8),
   (0x0320#16, 0x00#8), (0x0321#16, 0x80#8), (0x0323#16, 0x00#8), (0x0324#16, 0x00#8),
   (0x0325#16, 0x00#8), (0x0326#16, 0x00#8), (0x0327#16, 0x00#8), (0x0328#16, 0x00#8),
   (0x0329#16, 0x00#8), (0x032A#16, 0x00#8), (0x032B#16, 0x00#8), (0x032C#16, 0x00#8),
   (0x032E#16, 0x00#8), (0x032F#16, 0x00#8), (0x0330#16, 0x00#8), (0x0331#16, 0x00#8),
   (0x0332#16, 0x00#8), (0x0333#16, 0x00#8), (0x0334#16, 0x00#8), (0x0335#16, 0x00#8),
   (0x0336#16, 0x00#8), (0x0337#16, 0x00#8), (0x0339#16, 0x1F#8), (0x033B#16, 0x00#8),
   (0x033C#16, 0x00#8), (0x033D#16, 0x00#8), (0x033E#16, 0x00#8), (0x033F#16, 0x00#8),
   (0x0340#16, 0x00#8), (0x0341#16, 0x00#8), (0x0342#16, 0x00#8), (0x0343#16, 0x00#8),
   (0x0344#16, 0x00#8), (0x0345#16, 0x00#8), (0x0346#16, 0x00#8), (0x0347#16, 0x00#8),
   (0x0348#16, 0x00#8), (0x0349#16, 0x00#8), (0x034A#16, 0x00#8), (0x034B#16, 0x00#8),
   (0x034C#16, 0x00#8), (0x034D#16, 0x00#8), (0x034E#16, 0x00#8), (0x034F#16, 0x00#8),
   (0x0350#16, 0x00#8), (0x0351#16, 0x00#8), (0x0352#16, 0x00#8), (0x0353#16, 0x00#8),
   (0x0354#16, 0x00#8), (0x0355#16, 0x00#8), (0x0356#16, 0x00#8), (0x0357#16, 0x00#8),
   (0x0358#16, 0x00#8), (0x0359#16, 0x00#8), (0x035A#16, 0x00#8), (0x035B#16, 0x00#8),
   (0x035C#16, 0x00#8), (0x035D#16, 0x00#8), (0x035E#16, 0x00#8), (0x035F#16, 0x00#8),
   (0x0360#16, 0x00#8), (0x0361#16, 0x00#8), (0x0362#16, 0x00#8), (0x090E#16, 0x02#8),
   (0x091C#16, 0x04#8), (0x0943#16, 0x00#8), (0x0949#16, 0x00#8), (0x094A#16, 0x00#8),
   (0x0A02#16, 0x00#8), (0x0A03#16, 0x07#8), (0x0A04#16, 0x01#8), (0x0A05#16, 0x07#8),
   (0x0B44#16, 0x0F#8), (0x0B4A#16, 0x18#8), (0x001C#16, 0x01#8), (0x0B24#16, 0xDB#8),
   (0x0B25#16, 0x02#8)]

def si5431RegsVxs250 : List (BitVec 16 × Byte) :=
  [(0x0B24#16, 0xD8#8), (0x0B25#16, 0x00#8), (0x000B#16, 0x74#8), (0x0017#16, 0x32#8),
   (0x0018#16, 0xF5#8), (0x0021#16, 0x0B#8), (0x0022#16, 0x00#8), (0x002B#16, 0x02#8),
   (0x002C#16, 0x3A#8), (0x002D#16, 0x44#8), (0x002E#16, 0x00#8), (0x002F#16, 0x00#8),
   (0x0030#16, 0xDE#8), (0x0031#16, 0x00#8), (0x0032#16, 0x00#8), (0x0033#16, 0x00#8),
   (0x0034#16, 0xDE#8), (0x0035#16, 0x00#8), (0x0036#16, 0x00#8), (0x0037#16, 0x00#8),
   (0x0038#16, 0xDE#8), (0x0039#16, 0x00#8), (0x003A#16, 0x00#8), (0x003B#16, 0x00#8),
   (0x003C#16, 0xDE#8), (0x003D#16, 0x00#8), (0x0041#16, 0x00#8), (0x0042#16, 0x07#8),
   (0x0043#16, 0x00#8), (0x0044#16, 0x07#8), (0x009E#16, 0x00#8), (0x0102#16, 0x01#8),
   (0x0108#16, 0x06#8), (0x0109#16, 0x09#8), (0x010A#16, 0x3D#8), (0x010B#16, 0x00#8),
   (0x010D#16, 0x06#8), (0x010E#16, 0x09#8), (0x010F#16, 0x3D#8), (0x0110#16, 0x02#8),
   (0x0112#16, 0x01#8), (0x0113#16, 0x09#8), (0x0114#16, 0x3B#8), (0x0115#16, 0x00#8),
   (0x0117#16, 0x06#8), (0x0118#16, 0x09#8), (0x0119#16, 0x3D#8), (0x011A#16, 0x02#8),
   (0x011C#16, 0x01#8), (0x011D#16, 0x09#8), (0x011E#16, 0x3B#8), (0x011F#16, 0x00#8),
   (0x0121#16, 0x06#8), (0x0122#16, 0x09#8), (0x0123#16, 0x3D#8), (0x0124#16, 0x01#8),
   (0x0126#16, 0x01#8), (0x0127#16, 0x09#8), (0x0128#16, 0x3B#8), (0x0129#16, 0x00#8),
   (0x012B#16, 0x06#8), (0x012C#16, 0x09#8), (0x012D#16, 0x3D#8), (0x012E#16, 0x00#8),
   (0x0130#16, 0x06#8), (0x0131#16, 0x09#8), (0x0132#16, 0x3D#8), (0x0133#16, 0x01#8),
   (0x013A#16, 0x06#8), (0x013B#16, 0x09#8), (0x013C#16, 0x3D#8), (0x013D#16, 0x00#8),
   (0x013F#16, 0x00#8), (0x0140#16, 0x08#8), (0x0141#16, 0x40#8), (0x0202#16, 0x00#8),
   (0x0203#16, 0x00#8), (0x0204#16, 0x00#8), (0x0205#16, 0x00#8), (0x0206#16, 0x00#8),
   (0x0208#16, 0x00#8), (0x0209#16, 0x00#8), (0x020A#16, 0x00#8), (0x020B#16, 0x00#8),
   (0x020C#16, 0x00#8), (0x020D#16, 0x00#8), (0x020E#16, 0x00#8), (0x020F#16, 0x00#8),
   (0x0210#16, 0x00#8), (0x0211#16, 0x00#8), (0x0212#16, 0x02#8), (0x0213#16, 0x00#8),
   (0x0214#16, 0x00#8), (0x0215#16, 0x00#8), (0x0216#16, 0x00#8), (0x0217#16, 0x00#8),
   (0x0218#16, 0x01#8), (0x0219#16, 0x00#8), (0x021A#16, 0x00#8), (0x021B#16, 0x00#8),
   (0x021C#16, 0x00#8), (0x021D#16, 0x00#8), (0x021E#16, 0x00#8), (0x021F#16, 0x00#8),
   (0x0220#16, 0x00#8), (0x0221#16, 0x00#8), (0x0222#16, 0x00#8), (0x0223#16, 0x00#8),
   (0x0224#16, 0x00#8), (0x0225#16, 0x00#8), (0x0226#16, 0x02#8), (0x0227#16, 0x00#8),
   (0x0228#16, 0x00#8), (0x0229#16, 0x00#8), (0x022A#16, 0x00#8), (0x022B#16, 0x00#8),
   (0x022C#16, 0x01#8), (0x022D#16, 0x00#8), (0x022E#16, 0x00#8), (0x022F#16, 0x00#8),
   (0x0235#16, 0x00#8), (0x0236#16, 0x00#8), (0x0237#16, 0x00#8), (0x0238#16, 0x00#8),
   (0x0239#16, 0x36#8), (0x023A#16, 0x00#8), (0x023B#16, 0x00#8), (0x023C#16, 0x00#8),
   (0x023D#16, 0x00#8), (0x023E#16, 0x80#8), (0x024A#16, 0x00#8), (0x024B#16, 0x00#8),
   (0x024C#16, 0x00#8), (0x024D#16, 0x00#8), (0x024E#16, 0x00#8), (0x024F#16, 0x00#8),
   (0x0250#16, 0x00#8), (0x0251#16, 0x00#8), (0x0252#16, 0x00#8), (0x0253#16, 0x00#8),
   (0x0254#16, 0x00#8), (0x0255#16, 0x00#8), (0x0256#16, 0x00#8), (0x0257#16, 0x00#8),
   (0x0258#16, 0x00#8), (0x0259#16, 0x00#8), (0x025A#16, 0x00#8), (0x025B#16, 0x00#8),
   (0x025C#16, 0x00#8), (0x025D#16, 0x00#8), (0x025E#16, 0x00#8), (0x025F#16, 0x00#8),
   (0x0260#16, 0x00#8), (0x0261#16, 0x00#8), (0x0262#16, 0x00#8), (0x0263#16, 0x00#8),
   (0x0264#16, 0x00#8), (0x0268#16, 0x00#8), (0x0269#16, 0x00#8), (0x026A#16, 0x00#8),
   (0x026B#16, 0x44#8), (0x026C#16, 0x45#8), (0x026D#16, 0x46#8), (0x026E#16, 0x41#8),
   (0x026F#16, 0x55#8), (0x0270#16, 0x4C#8), (0x0271#16, 0x54#8), (0x0272#16, 0x00#8),
   (0x0302#16, 0x00#8), (0x0303#16, 0x00#8), (0x0304#16, 0x00#8), (0x0305#16, 0x80#8),
   (0x0306#16, 0x0D#8), (0x0307#16, 0x00#8), (0x0308#16, 0x00#8), (0x0309#16, 0x00#8),
   (0x030A#16, 0x00#8), (0x030B#16, 0x80#8), (0x030D#16, 0x00#8), (0x030E#16, 0x00#8),
   (0x030F#16, 0x00#8), (0x0310#16, 0x00#8), (0x0311#16, 0x1B#8), (0x0312#16, 0x00#8),
   (0x0313#16, 0x00#8), (0x0314#16, 0x00#8), (0x0315#16, 0x00#8), (0x0316#16, 0xA0#8),
   (0x0318#16, 0x00#8), (0x0319#16, 0x00#8), (0x031A#16, 0x00#8), (0x031B#16, 0x70#8),
   (0x031C#16, 0x08#8), (0x031D#16, 0x00#8), (0x031E#16, 0x00#8), (0x031F#16, 0x00#8),
   (0x0320#16, 0x00#8), (0x0321#16, 0x80#8), (0x0323#16, 0x00#8), (0x0324#16, 0x00#8),
   (0x0325#16, 0x00#8), (0x0326#16, 0x00#8), (0x0327#16, 0x00#8), (0x0328#16, 0x00#8),
   (0x0329#16, 0x00#8), (0x032A#16, 0x00#8), (0x032B#16, 0x00#8), (0x032C#16, 0x00#8),
   (0x032E#16, 0x00#8), (0x032F#16, 0x00#8), (0x0330#16, 0x00#8), (0x0331#16, 0x00#8),
   (0x0332#16, 0x00#8), (0x0333#16, 0x00#8), (0x0334#16, 0x00#8), (0x0335#16, 0x00#8),
   (0x0336#16, 0x00#8), (0x0337#16, 0x00#8), (0x0339#16, 0x1F#8), (0x033B#16, 0x00#8),
   (0x033C#16, 0x00#8), (0x033D#16, 0x00#8), (0x033E#16, 0x00#8), (0x033F#16, 0x00#8),
   (0x0340#16, 0x00#8), (0x0341#16, 0x00#8), (0x0342#16, 0x00#8), (0x0343#16, 0x00#8),
   (0x0344#16, 0x00#8), (0x0345#16, 0x00#8), (0x0346#16, 0x00#8), (0x0347#16, 0x00#8),
   (0x0348#16, 0x00#8), (0x0349#16, 0x00#8), (0x034A#16, 0x00#8), (0x034B#16, 0x00#8),
   (0x034C#16, 0x00#8), (0x034D#16, 0x00#8), (0x034E#16, 0x00#8), (0x034F#16, 0x00#8),
   (0x0350#16, 0x00#8), (0x0351#16, 0x00#8), (0x0352#16, 0x00#8), (0x0353#16, 0x00#8),
   (0x0354#16, 0x00#8), (0x0355#16, 0x00#8), (0x0356#16, 0x00#8), (0x0357#16, 0x00#8),
   (0x0358#16, 0x00#8), (0x0359#16, 0x00#8), (0x035A#16, 0x00#8), (0x035B#16, 0x00#8),
   (0x035C#16, 0x00#8), (0x035D#16, 0x00#8), (0x035E#16, 0x00#8), (0x035F#16, 0x00#8),
   (0x0360#16, 0x00#8), (0x0361#16, 0x00#8), (0x0362#16, 0x00#8), (0x090E#16, 0x00#8),
   (0x091C#16, 0x03#8), (0x0943#16, 0x00#8), (0x0949#16, 0x0A#8), (0x094A#16, 0xA0#8),
   (0x0A02#16, 0x00#8), (0x0A03#16, 0x07#8), (0x0A04#16, 0x01#8), (0x0A05#16, 0x07#8),
   (0x0B44#16, 0x0F#8), (0x0B4A#16, 0x18#8), (0x001C#16, 0x01#8), (0x0B24#16, 0xDB#8),
   (0x0B25#16, 0x02#8)]

def si5431RegsVxs125 : List (BitVec 16 × Byte) :=
  [(0x0B24#16, 0xD8#8), (0x0B25#16, 0x00#8), (0x000B#16, 0x74#8), (0x0017#16, 0x10#8),
   (0x0018#16, 0xF5#8), (0x0021#16, 0x0B#8), (0x0022#16, 0x00#8), (0x002B#16, 0x02#8),
   (0x002C#16, 0x3A#8), (0x002D#16, 0x44#8), (0x002E#16, 0x00#8), (0x002F#16, 0x00#8),
   (0x0030#16, 0x6F#8), (0x0031#16, 0x00#8), (0x0032#16, 0x00#8), (0x0033#16, 0x00#8),
   (0x0034#16, 0x6F#8), (0x0035#16, 0x00#8), (0x0036#16, 0x00#8), (0x0037#16, 0x00#8),
   (0x0038#16, 0x6F#8), (0x0039#16, 0x00#8), (0x003A#16, 0x00#8), (0x003B#16, 0x00#8),
   (0x003C#16, 0x6F#8), (0x003D#16, 0x00#8), (0x0041#16, 0x00#8), (0x0042#16, 0x06#8),
   (0x0043#16, 0x00#8), (0x0044#16, 0x06#8), (0x009E#16, 0x00#8), (0x0102#16, 0x01#8),
   (0x0108#16, 0x06#8), (0x0109#16, 0x09#8), (0x010A#16, 0x3D#8), (0x010B#16, 0x00#8),
   (0x010D#16, 0x06#8), (0x010E#16, 0x09#8), (0x010F#16, 0x3D#8), (0x0110#16, 0x02#8),
   (0x0112#16, 0x01#8), (0x0113#16, 0x09#8), (0x0114#16, 0x3B#8), (0x0115#16, 0x00#8),
   (0x0117#16, 0x06#8), (0x0118#16, 0x09#8), (0x0119#16, 0x3D#8), (0x011A#16, 0x02#8),
   (0x011C#16, 0x01#8), (0x011D#16, 0x09#8), (0x011E#16, 0x3B#8), (0x011F#16, 0x00#8),
   (0x0121#16, 0x06#8), (0x0122#16, 0x09#8), (0x0123#16, 0x3D#8), (0x0124#16, 0x01#8),
   (0x0126#16, 0x01#8), (0x0127#16, 0x09#8), (0x0128#16, 0x3B#8), (0x0129#16, 0x00#8),
   (0x012B#16, 0x06#8), (0x012C#16, 0x09#8), (0x012D#16, 0x3D#8), (0x012E#16, 0x00#8),
   (0x0130#16, 0x06#8), (0x0131#16, 0x09#8), (0x0132#16, 0x3D#8), (0x0133#16, 0x01#8),
   (0x013A#16, 0x02#8), (0x013B#16, 0x09#8), (0x013C#16, 0x3D#8), (0x013D#16, 0x00#8),
   (0x013F#16, 0x00#8), (0x0140#16, 0x08#8), (0x0141#16, 0x40#8), (0x0202#16, 0x00#8),
   (0x0203#16, 0x00#8), (0x0204#16, 0x00#8), (0x0205#16, 0x00#8), (0x0206#16, 0x00#8),
   (0x0208#16, 0x00#8), (0x0209#16, 0x00#8), (0x020A#16, 0x00#8), (0x020B#16, 0x00#8),
   (0x020C#16, 0x00#8), (0x020D#16, 0x00#8), (0x020E#16, 0x00#8), (0x020F#16, 0x00#8),
   (0x0210#16, 0x00#8), (0x0211#16, 0x00#8), (0x0212#16, 0x01#8), (0x0213#16, 0x00#8),
   (0x0214#16, 0x00#8), (0x0215#16, 0x00#8), (0x0216#16, 0x00#8), (0x0217#16, 0x00#8),
   (0x0218#16, 0x01#8), (0x0219#16, 0x00#8), (0x021A#16, 0x00#8), (0x021B#16, 0x00#8),
   (0x021C#16, 0x00#8), (0x021D#16, 0x00#8), (0x021E#16, 0x00#8), (0x021F#16, 0x00#8),
   (0x0220#16, 0x00#8), (0x0221#16, 0x00#8), (0x0222#16, 0x00#8), (0x0223#16, 0x00#8),
   (0x0224#16, 0x00#8), (0x0225#16, 0x00#8), (0x0226#16, 0x01#8), (0x0227#16, 0x00#8),
   (0x0228#16, 0x00#8), (0x0229#16, 0x00#8), (0x022A#16, 0x00#8), (0x022B#16, 0x00#8),
   (0x022C#16, 0x01#8), (0x022D#16, 0x00#8), (0x022E#16, 0x00#8), (0x022F#16, 0x00#8),
   (0x0235#16, 0x00#8), (0x0236#16, 0x00#8), (0x0237#16, 0x00#8), (0x0238#16, 0x00#8),
   (0x0239#16, 0x36#8), (0x023A#16, 0x00#8), (0x023B#16, 0x00#8), (0x023C#16, 0x00#8),
   (0x023D#16, 0x00#8), (0x023E#16, 0x80#8), (0x024A#16, 0x00#8), (0x024B#16, 0x00#8),
   (0x024C#16, 0x00#8), (0x024D#16, 0x00#8), (0x024E#16, 0x00#8), (0x024F#16, 0x00#8),
   (0x0250#16, 0x00#8), (0x0251#16, 0x00#8), (0x0252#16, 0x00#8), (0x0253#16, 0x00#8),
   (0x0254#16, 0x00#8), (0x0255#16, 0x00#8), (0x0256#16, 0x00#8), (0x0257#16, 0x00#8),
   (0x0258#16, 0x00#8), (0x0259#16, 0x00#8), (0x025A#16, 0x00#8), (0x025B#16, 0x00#8),
   (0x025C#16, 0x00#8), (0x025D#16, 0x00#8), (0x025E#16, 0x00#8), (0x025F#16, 0x00#8),
   (0x0260#16, 0x00#8), (0x0261#16, 0x00#8), (0x0262#16, 0x00#8), (0x0263#16, 0x00#8),
   (0x0264#16, 0x00#8), (0x0268#16, 0x01#8), (0x0269#16, 0x00#8), (0x026A#16, 0x00#8),
   (0x026B#16, 0x44#8), (0x026C#16, 0x45#8), (0x026D#16, 0x46#8), (0x026E#16, 0x41#8),
   (0x026F#16, 0x55#8), (0x0270#16, 0x4C#8), (0x0271#16, 0x54#8), (0x0272#16, 0x00#8),
   (0x0302#16, 0x00#8), (0x0303#16, 0x00#8), (0x0304#16, 0x00#8), (0x0305#16, 0x80#8),
   (0x0306#16, 0x0D#8), (0x0307#16, 0x00#8), (0x0308#16, 0x00#8), (0x0309#16, 0x00#8),
   (0x030A#16, 0x00#8), (0x030B#16, 0x80#8), (0x030D#16, 0x00#8), (0x030E#16, 0x00#8),
   (0x030F#16, 0x00#8), (0x0310#16, 0x00#8), (0x0311#16, 0x1B#8), (0x0312#16, 0x00#8),
   (0x0313#16, 0x00#8), (0x0314#16, 0x00#8), (0x0315#16, 0x00#8), (0x0316#16, 0xA0#8),
   (0x0318#16, 0x00#8), (0x0319#16, 0x00#8), (0x031A#16, 0x00#8), (0x031B#16, 0x70#8),
   (0x031C#16, 0x08#8), (0x031D#16, 0x00#8), (0x031E#16, 0x00#8), (0x031F#16, 0x00#8),
   (0x0320#16, 0x00#8), (0x0321#16, 0x80#8), (0x0323#16, 0x00#8), (0x0324#16, 0x00#8),
   (0x0325#16, 0x00#8), (0x0326#16, 0x00#8), (0x0327#16, 0x00#8), (0x0328#16, 0x00#8),
   (0x0329#16, 0x00#8), (0x032A#16, 0x00#8), (0x032B#16, 0x00#8), (0x032C#16, 0x00#8),
   (0x032E#16, 0x00#8), (0x032F#16, 0x00#8), (0x0330#16, 0x00#8), (0x0331#16, 0x00#8),
   (0x0332#16, 0x00#8), (0x0333#16, 0x00#8), (0x0334#16, 0x00#8), (0x0335#16, 0x00#8),
   (0x0336#16, 0x00#8), (0x0337#16, 0x00#8), (0x0339#16, 0x1F#8), (0x033B#16, 0x00#8),
   (0x033C#16, 0x00#8), (0x033D#16, 0x00#8), (0x033E#16, 0x00#8), (0x033F#16, 0x00#8),
   (0x0340#16, 0x00#8), (0x0341#16, 0x00#8), (0x0342#16, 0x00#8), (0x0343#16, 0x00#8),
   (0x0344#16, 0x00#8), (0x0345#16, 0x00#8), (0x0346#16, 0x00#8), (0x0347#16, 0x00#8),
   (0x0348#16, 0x00#8), (0x0349#16, 0x00#8), (0x034A#16, 0x00#8), (0x034B#16, 0x00#8),
   (0x034C#16, 0x00#8), (0x034D#16, 0x00#8), (0x034E#16, 0x00#8), (0x034F#16, 0x00#8),
   (0x0350#16, 0x00#8), (0x0351#16, 0x00#8), (0x0352#16, 0x00#8), (0x0353#16, 0x00#8),
   (0x0354#16, 0x00#8), (0x0355#16, 0x00#8), (0x0356#16, 0x00#8), (0x0357#16, 0x00#8),
   (0x0358#16, 0x00#8), (0x0359#16, 0x00#8), (0x035A#16, 0x00#8), (0x035B#16, 0x00#8),
   (0x035C#16, 0x00#8), (0x035D#16, 0x00#8), (0x035E#16, 0x00#8), (0x035F#16, 0x00#8),
   (0x0360#16, 0x00#8), (0x0361#16, 0x00#8), (0x0362#16, 0x00#8), (0x090E#16, 0x00#8),
   (0x091C#16, 0x03#8), (0x0943#16, 0x00#8), (0x0949#16, 0x0A#8), (0x094A#16, 0xA0#8),
   (0x0A02#16, 0x00#8), (0x0A03#16, 0x07#8), (0x0A04#16, 0x01#8), (0x0A05#16, 0x07#8),
   (0x0B44#16, 0x0F#8), (0x0B4A#16, 0x18#8), (0x001C#16, 0x01#8), (0x0B24#16, 0xDB#8),
   (0x0B25#16, 0x02#8)]

end VtpStreaming
