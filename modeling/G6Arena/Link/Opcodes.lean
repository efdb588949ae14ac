/-
# Opcodes

`commands.h`: the opcodes the firmware answers.  What `CommandProcessor` rejects by name
(`SWITCH_GRAYSCALE_CMD`, the reserved ones) it rejects as it does an unknown opcode.
-/

namespace G6Arena
namespace Link

def allOffCmd : UInt8 := 0x00
def systemResetCmd : UInt8 := 0x01
def setPatternIdCmd : UInt8 := 0x03
def switchGrayscaleCmd : UInt8 := 0x06
def trialParamsCmd : UInt8 := 0x08
def setRefreshRateCmd : UInt8 := 0x16
def getRefreshRateCmd : UInt8 := 0x17
def setPanelDisplayModeCmd : UInt8 := 0x1B
def getPanelDisplayModeCmd : UInt8 := 0x1C
def stopDisplayCmd : UInt8 := 0x30
def streamFrameCmd : UInt8 := 0x32
def getFramesSentCmd : UInt8 := 0x33
def resetFramesSentCmd : UInt8 := 0x34
def displayPsramIndexCmd : UInt8 := 0x3A
def psramPlayCmd : UInt8 := 0x3B
def setFramePositionCmd : UInt8 := 0x70
def getFramePositionCmd : UInt8 := 0x72
def getFileCountCmd : UInt8 := 0x80
def getPatternFilenameCmd : UInt8 := 0x82
def setPatternFilenameCmd : UInt8 := 0x83
def getPatternFileCmd : UInt8 := 0x84
def setPatternFileCmd : UInt8 := 0x85
def deletePatternFileCmd : UInt8 := 0x86
def getPatternInfoCmd : UInt8 := 0x88
def getSdArchiveCmd : UInt8 := 0x8A
def purgeMemoryCmd : UInt8 := 0x8F
def setAoVoltageCmd : UInt8 := 0xA0
def getAoVoltageCmd : UInt8 := 0xA1
def setAoLutCmd : UInt8 := 0xA2
def setAoModeCmd : UInt8 := 0xA3
def getAnalogInCmd : UInt8 := 0xA4
def setTelemetryCmd : UInt8 := 0xA8
def setDigitalOutCmd : UInt8 := 0xAA
def getDigitalOutCmd : UInt8 := 0xAB
def setDioRoleCmd : UInt8 := 0xAC
def getDioRoleCmd : UInt8 := 0xAD
def getEthernetIpAddressCmd : UInt8 := 0xC1
def getControllerInfoCmd : UInt8 := 0xC2
def setDiagOutputCmd : UInt8 := 0xC3
def getDiagOutputCmd : UInt8 := 0xC4
def setSpiClockCmd : UInt8 := 0xC5
def getSpiClockCmd : UInt8 := 0xC6
def g6ProgramPanelCmd : UInt8 := 0xC8
def g6VerifyPanelCmd : UInt8 := 0xC9
def getHealthCmd : UInt8 := 0xCA
def getFirmwareVersionCmd : UInt8 := 0xCB
def getCrashreportCmd : UInt8 := 0xCC
def getSdInfoCmd : UInt8 := 0xCD
def setSdDiagCmd : UInt8 := 0xCE
def setFirmwareFileCmd : UInt8 := 0xE0
def getFirmwareInfoCmd : UInt8 := 0xE3
def allOnCmd : UInt8 := 0xFF

end Link
end G6Arena
