import VtpStreaming.FadcSlots
import VtpStreaming.ReadConfigFile
import VtpStreaming.UserConfig

/-!
# The generated configuration

`vme_rol/fadc_master_stream_vg.c`, `generate_vtp_config`: the VTP's
configuration file, from the user's parameters and from the slots that the
pedestal file lists.
-/

namespace VtpStreaming

open Clib

/-! ## The lines -/

/-- `%d` of an `unsigned char`. -/
def fmtByte (b : Byte) : List Char := fmtD (b.setWidth 32)

/-- `0x%02X`. -/
def fmtMac (b : Byte) : List Char := '0' :: 'x' :: fmt02X b

def rule : List Char := "###################################################".toList

def crateLine (rocname : List Char) : List Char :=
  "VTP_CRATE ".toList ++ rocname ++ "vtp".toList

/-- The lines that depend on nothing, up to the payloads. -/
def commonLines : List (List Char) :=
  [[],
   rule,
   "# Firmware Configuration".toList,
   rule,
   "# Z7 FPGA firmware - Local aggregation and formatting".toList,
   "VTP_FIRMWARE_Z7           fe_vtp_z7_streamingv3_ejfat_v5.bin".toList,
   "# V7 FPGA firmware - FADC readout".toList,
   "VTP_FIRMWARE_V7           fe_vtp_v7_fadc_streamingv3_ejfat.bin".toList,
   [],
   rule,
   "# UDP Statistics/Sync Sender Configuration".toList,
   rule,
   "# Destination host for 1Hz sync packets (hostname or IP address)".toList,
   "# Default: 129.57.29.231 (indra-s2 for forwarding to JLAB EJFAT LB)".toList,
   "VTP_STATS_HOST            129.57.29.231".toList,
   [],
   "# Destination UDP port for sync packets (1-65535)".toList,
   "VTP_STATS_PORT            19531".toList,
   [],
   "# Stream instance to sample for statistics (0-3)".toList,
   "VTP_STATS_INST            0".toList,
   [],
   "# Sync packet length in bytes (typically 28)".toList,
   "VTP_SYNC_PKT_LEN          28".toList,
   [],
   rule,
   "# Network Streaming Configuration".toList,
   rule,
   "# Number of VTP network stream connections (1-4)".toList,
   "VTP_NUM_CONNECTIONS       1".toList,
   [],
   "# Network transport mode: 0=TCP, 1=UDP".toList,
   "VTP_NET_MODE              1".toList,
   [],
   "# Enable EJFAT packet headers: 0=disabled, 1=enabled (UDP only)".toList,
   "VTP_ENABLE_EJFAT          1".toList,
   [],
   "# Base local port number for connections (1-65535)".toList,
   "VTP_LOCAL_PORT            10001".toList,
   [],
   [],
   "#        slot: 10 13  9 14  8 15  7 16  6 17  5 18  4 19  3 20".toList,
   "#     payload:  1  2  3  4  5  6  7  8  9 10 11 12 13 14 15 16".toList]

def payloadLine (enable : Fin 16 → Word) : List Char :=
  "VTP_PAYLOAD_EN".toList ++
    (List.finRange 16).flatMap fun i => "  ".toList ++ fmtD (enable i)

/-- The lines with the values of the readout controller. -/
def rocLines (p : UserConfigParams) : List (List Char) :=
  ["VTP_STREAMING_ROCID       ".toList ++ fmtD p.vtpStreamingRocid,
   "VTP_STREAMING_NFRAME_BUF  ".toList ++ fmtD p.vtpStreamingNframeBuf,
   "VTP_STREAMING_FRAMELEN    ".toList ++ fmtD p.vtpStreamingFramelen,
   [],
   rule,
   "#VTP FADC Streaming event builder #0 (slots 3-10) #".toList,
   rule]

/-- The line that names the event builder. -/
def streamingLine (p : UserConfigParams) : List Char :=
  "VTP_STREAMING             ".toList ++ fmtD p.vtpStreaming

/-- The lines of the event builder. -/
def ebLines (p : UserConfigParams) : List (List Char) :=
  [[],
   "VTP_STREAMING_MAC         ".toList ++ fmtMac (p.vtpStreamingMac 0) ++ " ".toList ++
     fmtMac (p.vtpStreamingMac 1) ++ " ".toList ++ fmtMac (p.vtpStreamingMac 2) ++ " ".toList ++
     fmtMac (p.vtpStreamingMac 3) ++ " ".toList ++ fmtMac (p.vtpStreamingMac 4) ++ " ".toList ++
     fmtMac (p.vtpStreamingMac 5),
   [],
   "VTP_STREAMING_NSTREAMS    ".toList ++ fmtD p.vtpStreamingNstreams,
   [],
   "VTP_STREAMING_IPADDR      ".toList ++ fmtByte (p.vtpStreamingIpaddr 0) ++ "  ".toList ++
     fmtByte (p.vtpStreamingIpaddr 1) ++ " ".toList ++ fmtByte (p.vtpStreamingIpaddr 2) ++
     " ".toList ++ fmtByte (p.vtpStreamingIpaddr 3),
   "VTP_STREAMING_SUBNET      ".toList ++ fmtByte (p.vtpStreamingSubnet 0) ++ " ".toList ++
     fmtByte (p.vtpStreamingSubnet 1) ++ " ".toList ++ fmtByte (p.vtpStreamingSubnet 2) ++
     "   ".toList ++ fmtByte (p.vtpStreamingSubnet 3),
   "VTP_STREAMING_GATEWAY     ".toList ++ fmtByte (p.vtpStreamingGateway 0) ++ "  ".toList ++
     fmtByte (p.vtpStreamingGateway 1) ++ "  ".toList ++ fmtByte (p.vtpStreamingGateway 2) ++
     "   ".toList ++ fmtByte (p.vtpStreamingGateway 3) ++ "   ".toList,
   [],
   "VTP_STREAMING_DESTIP      ".toList ++ p.vtpStreamingDestip,
   "VTP_STREAMING_DESTIPPORT  ".toList ++ fmtD p.vtpStreamingDestipport,
   "VTP_STREAMING_LOCALPORT   ".toList ++ fmtD p.vtpStreamingLocalport,
   [],
   "VTP_STREAMING_CONNECT     ".toList ++ fmtD p.vtpStreamingConnect,
   []]

def vtpConfigLines (rocname : List Char) (enable : Fin 16 → Word) (p : UserConfigParams) :
    List (List Char) :=
  crateLine rocname :: (commonLines ++ payloadLine enable :: [] :: rocLines p) ++
    streamingLine p :: ebLines p

/-- `vtp_config_path`, as much of it as the array holds. -/
def vtpConfigPath (configDir rocname : List Char) : List Char :=
  (configDir ++ "/vtp_".toList ++ rocname ++ ".cnf".toList).take 511

/-- The path and the text of the file, when it can be written at all. -/
def generateVtpConfig (configDir rocname : List Char) (pedsFile : Option (List Char))
    (params : UserConfigParams) : Option (List Char × List Char) :=
  match parseActiveFadcSlots pedsFile 20 with
  | none => none
  | some activeSlots =>
      some (vtpConfigPath configDir rocname,
        (vtpConfigLines rocname (payloadEnable activeSlots) params).flatMap fun l => l ++ ['\n'])

end VtpStreaming
