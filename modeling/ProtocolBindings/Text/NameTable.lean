/-!
# Table of character names

The names and the other names of the characters of Unicode 14.0, sorted, but for
the ideographs and syllables whose names follow a rule.  Two small letters stand in
front of every name: they are the digits, to the base of 26, of the number of
characters to drop at the end of the name before, and the capital letters, figures,
hyphens and spaces after them are put in their place.  Line ends mean nothing.
-/

namespace ProtocolBindings.Text

/-- The sorted names, each without what it shares with the name before. -/
def nameTable : String :=
  "aaABACUSafC CURRENTaiCORDIONafUNT OFaiKaaNOWLEDGEajTIVATE ARABIC FORM SHAPING
atSYMMETRIC SWAPPINGazUTE ACCENTafNGLEakDDRESSED TO THE SUBJECTawHESIVE BANDAGEaoI SHAKTI
aiLAM ALIF LENGTHENERapCAPITAL LETTER ALIFaeBAabHEadCHIadDAALIaeHAadEabFAacGAabBEadHAacIabJIIM
aeKAFacHAacPOadLAAMaeMIIMaeNHAacUNacYAadOabPEacQAAFaeRAacSHAacINNYIIYHEakTUacUabVAacWAWadYAabHE
adZALarONSONANT MODIFIERasDIGIT EIGHTafFIVEadOURaeNINEaeONEadSEVENaeIXadTHREEaeWOadZERO
akGEMINATE CONSONANT MODIFIERauION MARKapHAMZAafINITIAL EXCLAMATION MARKaqQUESTION MARK
avNASALIZATION MARKaqUKTAafSMALL LETTER ALIFaeBAabHEadCHIadDAALIaeHAadEabFAacGAabBEadHAacIabJIIM
aeKAFacHAacPOadLAAMaeMIIMaeNHAacUNacYAadOabPEacQAAFaeRAacSHAacINNYIIYHEakTUacUabVAacWAWadYAabHE
adZALaqVOWEL LENGTHENERauMETOSaeISSION TICKETSapULTaeEGEAN CHECK MARKakDRY MEASURE FIRST SUBUNIT
azLIQUID MEASURE FIRST SUBUNITbcMEASURE SECOND SUBUNITaoTHIRD SUBUNITavNUMBER EIGHTaa HUNDRED
ahTHOUSANDajYaa THOUSANDapFIFTYaa THOUSANDamVEaa HUNDREDahTHOUSANDamORTYaa THOUSANDamUR
aa HUNDREDahTHOUSANDanNINEaa HUNDREDahTHOUSANDajTYaa THOUSANDapONEaa HUNDREDahTHOUSANDamSEVEN
aa HUNDREDahTHOUSANDajTYaa THOUSANDapIXaa HUNDREDahTHOUSANDajTYaa THOUSANDaoTENaa THOUSAND
alHIRTYaa THOUSANDanREEaa HUNDREDahTHOUSANDanWENTYaa THOUSANDanOaa HUNDREDahTHOUSAND
atWEIGHT BASE UNITajFIRST SUBUNITamOURTH SUBUNITaoSECOND SUBUNITaoTHIRD SUBUNIT
atORD SEPARATOR DOTadLINEayRIAL TRAMWAYanFGHANI SIGNalHOM CONSONANT SIGN MEDIAL LAabIGATING RA
alRAayDIGIT EIGHTafFIVEadOURaeNINEaeONEadSEVENaeIXadTHREEaeWOadZEROakLETTER AaaLTERNATE BAacGA
acTAamBAabHAadCAabHAadDAabDAabHAadHAadGAabHAadHAacJAabHAadKAabHAadLAabLAadMAacNAabGAacNAacYAadPA
abHAadRAacSAacTAabHAacTAabHAalNUMBER TENacWENTYanSIGN KILLERagRULAIafSECTIONagMALL SECTION
arYMBOL VIajVOWEL SIGN AaaAabIabMabWacEabIaaIacOabUaaUarIRPLANEaa ARRIVINGaiDEPARTURE
arKTIESELSKABalLARM CLOCKajCHEMICAL SYMBOL FOR AIRacLEMBICafKALIaa-2agUMadMALGAMagNTIMONY ORE
alQUA REGIAaa-2ahVITAEaa-2aiFORTISajRSENICagSHESaeURIPIGMENTalBATH OF MARYaeVAPOURSaoISMUTH ORE
akLACK SULFURalORAXaa-2ab3agRICKafCADUCEUSagLXacPUT MORTUUMamINNABARahOPPER ANTIMONIATEalORE
ajROCUS OF COPPERaa-2aiIRONamUCIBLEaa-2ab3ab4ab5akDAY-NIGHTaiISSOLVEaa-2ahTILLahEARTHafFIRE
aeGOLDadUMadHALF DRAMaeOUNCEajORSE DUNGaiURaeIRON OREaa-2ag-COPPER OREapLEAD OREahODESTONE
ajMARCASITEaiERCURY SUBLIMATEaa-2ab3asONTHafNIGHTadTREafOILadPHILOSOPHERS SULFURasOT ASHESahWDER
aaED BRICKanRECIPITATEakURIFYaeTREFACTIONamQUICK LIMEahNTESSENCEamREALGARaa-2ahGULUS
aa OF ANTIMONYaa-2akIRONai-2ab3ab4ahTORTafOCK SALTaa-2alSAL-AMMONIACajTaa OF ANTIMONY
aiCOPPER ANTIMONIATEazCEPTER OF JOVEaoILVERafOAPadPIRITafTARRED TRIDENTanRATUM SUPER STRATUMaa-2
awUBLIMATE OF ANTIMONYaiCOPPERagSALT OF ANTIMONYaiCOPPERatIONajLFURagTARTARaa-2ahIN OREaeCTURE
ahRIDENTagUTTYafURINEafVERDIGRISaiINEGARaa OF ANTIMONYam-2ab3ahTRIOLaa-2ajWATERadXaxEF SYMBOL
aiMBICaeRTadIEN MONSTERalL AROUND-PROFILEaoEQUAL TOakMaaOST EQUAL OR EQUAL TOalTO
aa WITH CIRCUMFLEX ACCENTbkTERNATE ONE-WAY LEFT WAY TRAFFICbaIVE KEY SYMBOL
avMALGAMATION OR COPRODUCTaxBULANCEahERICAN FOOTBALLapPERSANDagHORAagNATOLIAN HIEROGLYPH A001ab2
ab3ab4ab5ab6ab7ab8ab9ac10aaAac1ab2ab3ab4ab5ab6ab7ab8ab9ac20ab1ab2ab3ab4ab5ab6aaAac7ab8ab9ac30ab1
ab2ab3ab4ab5ab6ab7ab8ab9aaAad40ab1aaAac2ab3ab4ab5aaAac6aaAabBac7ab8ab9ac50ab1ab2ab3ab4ab5ab6ab7
ab8ab9ac60ab1ab2ab3ab4ab5ab6aaAabBabCac7ab8ab9ac70ab1ab2ab3ab4ab5ab6ab7ab8ab9ac80ab1ab2ab3ab4ab5
ab6ab7ab8ab9ac90ab1ab2ab3ab4ab5ab6ab7aaAac8aaAac9ad100aaAac1aaAac2aaAac3ab4aaAabBabCac5aaAabBac6
ab7aaAabBabCac8ab9ac10aaAabBac1ab2ab3ab4ab5aaAac6ab7ab8ab9ac20ab1ab2ab3ab4ab5aaAac6ab7ab8ab9ac30
ab1ab2ab3ab4ab5aaAac6ab7ab8ab9ac40ab1ab2ab3ab4ab5ab6ab7ab8ab9ac50ab1ab2ab3ab4ab5ab6ab7ab8ab9ac60
ab1ab2ab3ab4ab5ab6ab7ab8ab9ac70ab1ab2ab3ab4ab5ab6ab7ab8ab9ac80ab1ab2ab3ab4ab5ab6ab7ab8ab9ac90ab1
ab2ab3ab4ab5ab6ab7ab8ab9ad200ab1ab2aaAabBac3ab4ab5ab6ab7aaAac8ab9aaAad10ab1ab2ab3ab4ab5aaAac6aaA
ac7ab8ab9ac20ab1ab2ab3ab4ab5ab6ab7aaAac8ab9ac30ab1ab2ab3ab4ab5ab6ab7ab8ab9ac40ab1ab2ab3ab4ab5ab6
ab7ab8ab9ac50ab1ab2ab3ab4ab5ab6ab7ab8ab9ac60ab1ab2ab3ab4ab5ab6ab7aaAac8ab9ac70ab1ab2ab3ab4ab5ab6
ab7ab8ab9ac80ab1ab2ab3ab4ab5ab6ab7ab8ab9aaAad90ab1ab2ab3ab4aaAac5ab6ab7ab8ab9aaAae300ab1ab2ab3
ab4ab5ab6ab7ab8ab9aaAad10ab1ab2ab3ab4ab5ab6ab7ab8ab9ac20ab1ab2ab3ab4ab5ab6ab7ab8ab9aaAad30ab1
ab2AabBabCac3ab4ab5ab6aaAabBabCac7ab8ab9ac40ab1ab2ab3ab4ab5ab6ab7ab8ab9ac50ab1ab2ab3ab4ab5ab6ab7
ab8ab9aaAad60ab1ab2ab3ab4aaAac5ab6ab7ab8aaAac9ac70ab1aaAac2ab3ab4ab5ab6ab7ab8ab9ac80ab1aaAac2
ab3 RA OR RIajAac4ab5ab6aaAac7ab8ab9ac90ab1ab2ab3 EIGHTah4ab5ab6ab7ab8ab9ad400ab1ab2ab3ab4ab5ab6
ab7ab8ab9ac10 BEGIN LOGOGRAM MARKauA END LOGOGRAM MARKau1ab2ab3ab4ab5ab6ab7ab8ab9ac20ab1ab2ab3
ab4ab5ab6ab7ab8ab9ac30ab1ab2ab3ab4ab5ab6ab7ab8ab9ac40ab1ab2ab3ab4ab5ab6ab7ab8ab9ac50aaAac1ab2ab3
ab4ab5ab6ab7aaAac8ab9ac60ab1ab2ab3ab4ab5ab6ab7ab8ab9ac70ab1ab2ab3ab4ab5ab6ab7ab8ab9ac80ab1ab2ab3
ab4ab5ab6ab7ab8ab9ac90ab1ab2ab3ab4ab5ab6ab7ad501ab2ab3ab4ab5ab6ab7ab8ab9ac10ab1ab2ab3ab4ab5ab6
ab7ab8ab9ac20ab1ab2ab3ab4ab5ab6ab7ab8ab9ac30auMICAL HEARTaoCHORaeD WITH DOTakGER SYMBOLajLE
aa WITH S INSIDEaiUNDERBARaqRY FACEahSTROM SIGNakUISHED FACEamKHacTaaENNA WITH BARS
aoICLOCKWISE CLOSED CIRCLE ARROWasONTOUR INTEGRALaqDOWNWARDS AND UPWARDS OPEN CIRCLE ARROWS
boGAPPED CIRCLE ARROWatINTEGRATIONalOPEN CIRCLE ARROWarTOP SEMICIRCLE ARROW
atRIANGLE-HEADED BOTTOM U-SHAPED ARROWavLEFT U-SHAPED ARROWatOPEN CIRCLE ARROW
arRIGHT U-SHAPED ARROWauTOP U-SHAPED ARROWbvPCabL FUNCTIONAL SYMBOL ALPHAaa UNDERBAR
aoBACKSLASH BARanCIRCLE BACKSLASHajDIAERESISajJOTadSTARacILEafUNDERBARaoOMMA BARajDEL DIAERESIS
ajSTILEafTILDEagTA STILEafUNDERBARanIAMOND UNDERBARapOWN CARET TILDEalSHOE STILEakTACK JOT
adUNDERBARaoWARDS VANEaoEPSILON UNDERBARaqGREATER-THAN DIAERESISawI-BEAMafOTAaa UNDERBAR
anJOT DIAERESISajUNDERBARamLEFT SHOE STILEalWARDS VANEaoOMEGAaa UNDERBARaoQUADaa BACKSLASH
ajCIRCLEafOLONafDELaaTAaeIAMONDafVIDEafOWN CARETagWARDS ARROWapEQUALafGREATER-THANamJOT
adLEFTWARDS ARROWanSS-THANajNOT EQUALajQUESTIONaiRIGHTWARDS ARROWaqSLASHafUP CARETagWARDS ARROW
aqOTE QUADaeUNDERBARaoRHOacIGHTWARDS VANEapSEMICOLON UNDERBARarLASH BARaiQUISH QUAD
akTAR DIAERESISamILE TILDEalTILDE DIAERESISapUP CARET TILDEalSHOE JOTaiTACK DIAERESISajJOT
adOVERBARanWARDS VANEamZILDEazOLLONaeSTROPHEaiPLICATION PROGRAM COMMANDayROACHES THE LIMIT
apXIMATELY BUT NOT ACTUALLY EQUAL TOazEQUAL OR EQUAL TOalTOaa OR THE IMAGE OFblQUARIUS
ahRABIC BASELINE ROUND DOTasCOMMAaeURLY DAMMAaaTANaiFATHAaaTANaiKASRAaaTANaoDAMMA
aa ISOLATED FORManMEDIAL FORMalWITH DOTajTANaa ISOLATED FORMauTE SEPARATORanECIMAL SEPARATOR
aqISPUTED END OF AYAHatOUBLE RIGHT ARROWHEAD ABOVEaa WITH DOTbfD MADDAanEMPTY CENTRE HIGH STOP
ajLOW STOPauND OF AYAHaeTEXT MARKaqFATHAaa ISOLATED FORManMEDIAL FORMalWITH DOT ABOVEajRING
aeTWO DOTSaoTANaa ISOLATED FORMavIVE POINTED STARaqOOTNOTE MARKERaoULL STOP
ajHALF MADDA OVER MADDAatMZA ABOVEafBELOWalINVERTED DAMMAaoKASRAaa ISOLATED FORManMEDIAL FORM
alWITH DOT BELOWapTANaa ISOLATED FORMawLARGE CIRCLE BELOWamROUND DOT ABOVEafBELOW
afINSIDE CIRCLE BELOWbiEFT ARROWHEAD ABOVEafBELOWasTTER AEabFRICAN FEHadNOONaeQAF
aa WITH THREE DOTS ABOVEbgINaa FINAL FORMakINITIAL FORMalSOLATED FORManMEDIAL FORM
alWITH THREE DOTS ABOVEafBELOWafPOINTING DOWNWARDS ABOVEbiWO DOTS ABOVEafVERTICALLY ABOVEbhLEF
aa FINAL FORMakISOLATED FORManMAKSURAaa FINAL FORMakISOLATED FORMavWASLAaa FINAL FORM
akISOLATED FORMasITH ATTACHED BOTTOM RIGHT KASRAaa AND DOT ABOVEajLEFT RINGbgFATHAafKASRA
afLEFT HAMZAafROUND DOTaoRIGHT HAMZAafROUND DOTaoOUND DOT ABOVEafBELOWapTOP RIGHT FATHA
aa AND DOT ABOVEajLEFT RINGbmDOT ABOVEajEXTENDED ARABIC-INDIC DIGIT THREE ABOVEakWO ABOVE
blHAMZA ABOVEaa FINAL FORMakISOLATED FORMatBELOWaa FINAL FORMakISOLATED FORMazLEFT MIDDLE STROKE
asMADDA ABOVEaa FINAL FORMakISOLATED FORMazRIGHT MIDDLE STROKEaa AND DOT ABOVEajLEFT RING
bhWAVY HAMZA ABOVEafBELOWbaBEEHaa FINAL FORMakINITIAL FORMalSOLATED FORManMEDIAL FORMaoH
aa FINAL FORMakINITIAL FORMalSOLATED FORManMEDIAL FORMalWITH DOT BELOW AND THREE DOTS ABOVE
beHAMZA ABOVEalINVERTED SMALL V BELOWawSMALL MEEM ABOVEakVaa BELOW
anTHREE DOTS HORIZONTALLY BELOWasPOINTING UPWARDS BELOWaa AND TWO DOTS ABOVE
bzWO DOTS BELOW AND DOT ABOVEbiEHaa FINAL FORMakINITIAL FORMalSOLATED FORManMEDIAL FORMarDAD
aa FINAL FORMakINITIAL FORMalSOLATED FORManMEDIAL FORMalWITH DOT BELOWaqHALaa FINAL FORM
akISOLATED FORMarLaa FINAL FORMakISOLATED FORManWITH DOT BELOWaa AND SMALL TAHaxFOUR DOTS ABOVE
apINVERTED SMALL V BELOWanVakRINGaeTHREE DOTS ABOVE DOWNWARDSapBELOW
apWO DOTS VERTICALLY BELOW AND SMALL TAHbvDAHALaa FINAL FORMakISOLATED FORMarLaa FINAL FORM
akISOLATED FORMarOTLESS BEHadFEHadQAFakULaa FINAL FORMakISOLATED FORMaqYEHaa FINAL FORM
akINITIAL FORMalSOLATED FORManMEDIAL FORMaqEaa FINAL FORMakINITIAL FORMalSOLATED FORM
anMEDIAL FORManFARSI YEHaa FINAL FORMakINITIAL FORMalSOLATED FORManMEDIAL FORM
alWITH EXTENDED ARABIC-INDIC DIGIT FOUR BELOWakTHREE ABOVEakWO ABOVEblINVERTED V
akTHREE DOTS ABOVEapWO DOTS ABOVEbcEHaa FINAL FORMakINITIAL FORMalSOLATED FORManMEDIAL FORM
alWITH DOT BELOWaa AND THREE DOTS ABOVEbaMOVED BELOWapTHREE DOTS BELOWafPOINTING UPWARDS BELOW
bgWO DOTS BELOWaxGAFaa FINAL FORMakINITIAL FORMalSOLATED FORManMEDIAL FORMalWITH INVERTED STROKE
apRINGaeTHREE DOTS ABOVEapWO DOTS BELOWawHAINaa FINAL FORMakINITIAL FORMalSOLATED FORM
anMEDIAL FORMalWITH DOT BELOWajTHREE DOTS ABOVEbaRAFadUEHaa FINAL FORMakINITIAL FORM
alSOLATED FORManMEDIAL FORMaqHAHaa FINAL FORMakINITIAL FORMalSOLATED FORManMEDIAL FORM
alWITH EXTENDED ARABIC-INDIC DIGIT FOUR BELOWbmHAMZA ABOVEalINVERTED SMALL V BELOW
awSMALL ARABIC LETTER TAH ABOVEaeND TWO DOTSamBELOWbdTHREE DOTS ABOVEafPOINTING UPWARDS BELOW
bgWO DOTS ABOVEafVERTICAL ABOVEbeMZAaa ISOLATED FORMasEHaa DOACHASHMEEaa FINAL FORM
akINITIAL FORMalSOLATED FORManMEDIAL FORMaxFINAL FORMakGOALaa FINAL FORMakINITIAL FORM
alSOLATED FORManMEDIAL FORMalWITH HAMZA ABOVEavINITIAL FORMalSOLATED FORManMEDIAL FORM
alWITH INVERTED VakYEH ABOVEaa FINAL FORMakISOLATED FORMbfIGH HAMZAaa ALEFaeWAWadYEHaoJEEM
aa FINAL FORMakINITIAL FORMalSOLATED FORManMEDIAL FORMalWITH THREE DOTS ABOVEafBELOW
apWO DOTS ABOVEawHaa FINAL FORMakISOLATED FORMarKAFaa FINAL FORMakINITIAL FORMalSOLATED FORM
anMEDIAL FORMalWITH DOT ABOVEafBELOWajRINGaeTHREE DOTS BELOWapWO DOTS ABOVEavSHMIRI YEHalEHEH
aa FINAL FORMakINITIAL FORMalSOLATED FORManMEDIAL FORMalWITH DOT ABOVEajSMALL V
ahTHREE DOTS ABOVEafBELOWafPOINTING UPWARDS BELOWbgWO DOTS ABOVEafVERTICALLY BELOWbjHAH
aa FINAL FORMakINITIAL FORMalSOLATED FORManMEDIAL FORMapIRGHIZ OEaa FINAL FORMakISOLATED FORM
aqYUaa FINAL FORMakISOLATED FORMayLAMaa FINAL FORMakINITIAL FORMalSOLATED FORManMEDIAL FORM
alWITH BARadDOT ABOVEahUBLE BARakSMALL ARABIC LETTER TAH ABOVEaxVahTHREE DOTS ABOVEafBELOW
ayOW ALEFaiMARKadEEMaa FINAL FORMakINITIAL FORMalSOLATED FORManMEDIAL FORMalWITH DOT ABOVE
afBELOWajTHREE DOTS ABOVEbaNGaa FINAL FORMakINITIAL FORMalSOLATED FORManMEDIAL FORMamOEH
aa FINAL FORMakINITIAL FORMalSOLATED FORManMEDIAL FORMaqOONaa FINAL FORMakGHUNNAaa FINAL FORM
akISOLATED FORMauINITIAL FORMalSOLATED FORManMEDIAL FORMalWITH DOT BELOWajINVERTED SMALL VaqRING
aeSMALL TAHadVahTHREE DOTS ABOVEapWO DOTS BELOWaxYEHaa FINAL FORMakINITIAL FORMalSOLATED FORM
anMEDIAL FORMaqOEaa FINAL FORMakISOLATED FORMaqPEHaa FINAL FORMakINITIAL FORMalSOLATED FORM
anMEDIAL FORMalWITH SMALL MEEM ABOVEakVanEHaa FINAL FORMakINITIAL FORMalSOLATED FORM
anMEDIAL FORMarQAFaa FINAL FORMakINITIAL FORMalSOLATED FORManMEDIAL FORMalWITH DOT ABOVEafBELOW
aa AND NO DOTS ABOVEbbTHREE DOTS ABOVEazREHaa FINAL FORMakISOLATED FORManWITH DOT BELOW
aa AND DOT ABOVEaxFOUR DOTS ABOVEapHAMZA ABOVEalINVERTED VakLOOPaeRING
aeSMALL ARABIC LETTER TAH AND TWO DOTSbeNOON ABOVEakVaa BELOWamTROKEagTWO DOTS ABOVE
afVERTICALLY ABOVEbhNOONaa FINAL FORMakINITIAL FORMalSOLATED FORManMEDIAL FORMaqOHINGYA YEHalREH
aa FINAL FORMakISOLATED FORMasSADaa FINAL FORMakINITIAL FORMalSOLATED FORManMEDIAL FORM
alWITH THREE DOTS ABOVEafBELOWapWO DOTS BELOWawEENaa FINAL FORMakINITIAL FORMalSOLATED FORM
anMEDIAL FORMalWITH DOT BELOW AND DOT ABOVEaxEXTENDED ARABIC-INDIC DIGIT FOUR ABOVE
bmFOUR DOTS ABOVEapINVERTED VakSMALL ARABIC LETTER TAH AND TWO DOTSbkTHREE DOTS BELOW
aa AND THREE DOTS ABOVEbkWO DOTS VERTICALLY ABOVEbiHEENaa FINAL FORMakINITIAL FORMalSOLATED FORM
anMEDIAL FORMalWITH DOT BELOWatTRAIGHT WAWalUPERSCRIPT ALEFapWASH KAFajTAHaa FINAL FORM
akINITIAL FORMalSOLATED FORManMEDIAL FORMalWITH DOT BELOWajTHREE DOTS ABOVEafBELOW
apWO DOTS ABOVEawCHEHaa FINAL FORMakINITIAL FORMalSOLATED FORManMEDIAL FORMalWITH DOT ABOVE
ajSMALL VanEHaa FINAL FORMakINITIAL FORMalSOLATED FORManMEDIAL FORMasEHaa FINAL FORM
akINITIAL FORMalSOLATED FORManMARBUTAaa FINAL FORMakGOALaeISOLATED FORMauEDIAL FORMalWITH RING
aeSMALL TEH ABOVEajVahTHREE DOTS ABOVE DOWNWARDSbgEHaa FINAL FORMakINITIAL FORMalSOLATED FORM
anMEDIAL FORMaqHALaa FINAL FORMakISOLATED FORMaqEHaa FINAL FORMakINITIAL FORMalSOLATED FORM
anMEDIAL FORMaoIN YEHahTEHaa FINAL FORMakINITIAL FORMalSOLATED FORManMEDIAL FORMalWITH SMALL V
anEHaa FINAL FORMakINITIAL FORMalSOLATED FORManMEDIAL FORMasUaa FINAL FORMakISOLATED FORM
anWITH HAMZA ABOVEaa ISOLATED FORMbfIGHUR KAZAKH KIRGHIZ ALEF MAKSURA INITIAL FORMamMEDIAL FORM
buVEaa FINAL FORMakISOLATED FORMaoHaa FINAL FORMakINITIAL FORMalSOLATED FORManMEDIAL FORMapWAW
aa FINAL FORMakISOLATED FORManWITH DOT ABOVEafWITHINakEXTENDED ARABIC-INDIC DIGIT THREE ABOVE
akWO ABOVEblHAMZA ABOVEaa FINAL FORMakISOLATED FORMazRINGaeTWO DOTS ABOVEaxYEHaa BARREE
aa FINAL FORMakISOLATED FORManWITH EXTENDED ARABIC-INDIC DIGIT THREE ABOVEakWO ABOVE
blHAMZA ABOVEaa FINAL FORMakISOLATED FORMblFINAL FORMakINITIAL FORMalSOLATED FORManMEDIAL FORM
alWITH HAMZA ABOVEaa FINAL FORMakINITIAL FORMalSOLATED FORManMEDIAL FORMaxSMALL VahTAIL
adHREE DOTS BELOWapWO DOTS BELOW AND DOT ABOVEajHAMZA ABOVEalSMALL NOON ABOVEbrUaa FINAL FORM
akISOLATED FORMaqZAHaa FINAL FORMakINITIAL FORMalSOLATED FORManMEDIAL FORManINaa FINAL FORM
akISOLATED FORManWITH INVERTED V ABOVEbgIGATURE AIN WITH ALEF MAKSURA FINAL FORMakISOLATED FORM
baJEEM INITIAL FORMalSOLATED FORManWITH MEEM FINAL FORMakINITIAL FORMbbMEEM INITIAL FORM
alSOLATED FORManWITH ALEF MAKSURA FINAL FORMaxMEEM FINAL FORMakINITIAL FORMarYEH FINAL FORM
ayYEH FINAL FORMakISOLATED FORMazKBAR ISOLATED FORMasLAYHAA AS-SALAAMamE ISOLATED FORM
apI AS-SALAAMabTU WAS-SALAAMawM AS-SALAAMakAA AS-SALAAM
arEF MAKSURA WITH SUPERSCRIPT ALEF FINAL FORMakISOLATED FORMbrWITH FATHATAN FINAL FORM
akISOLATED FORMbeLAH ISOLATED FORMasZZA WA JALLamBEH WITH ALEF MAKSURA FINAL FORMakISOLATED FORM
baHAH INITIAL FORMalSOLATED FORManWITH YEH FINAL FORMawEH INITIAL FORMamMEDIAL FORM
apJEEM INITIAL FORMalSOLATED FORMasKHAH INITIAL FORMalSOLATED FORManWITH YEH FINAL FORM
ayMEEM FINAL FORMakINITIAL FORMalSOLATED FORManMEDIAL FORMaqNOON FINAL FORMapREH FINAL FORM
aoYEH FINAL FORMakISOLATED FORMarZAIN FINAL FORMaxISMILLAH AR-RAHMAN AR-RAHEEM
bdDAD WITH ALEF MAKSURA FINAL FORMakISOLATED FORMbaHAH INITIAL FORMalSOLATED FORM
anWITH ALEF MAKSURA FINAL FORMaxYEH FINAL FORMaxJEEM INITIAL FORMalSOLATED FORM
asKHAH INITIAL FORMalSOLATED FORManWITH MEEM FINAL FORMakINITIAL FORMbbMEEM INITIAL FORM
alSOLATED FORMasREH FINAL FORMakISOLATED FORMarYEH FINAL FORMakISOLATED FORM
baFEH WITH ALEF MAKSURA FINAL FORMakISOLATED FORMbaHAH INITIAL FORMalSOLATED FORM
arJEEM INITIAL FORMalSOLATED FORMasKHAH INITIAL FORMalSOLATED FORManWITH MEEM FINAL FORM
akINITIAL FORMbbMEEM INITIAL FORMalSOLATED FORManWITH YEH FINAL FORMayYEH FINAL FORM
akISOLATED FORMbaGHAIN WITH ALEF MAKSURA FINAL FORMakISOLATED FORMbaJEEM INITIAL FORM
alSOLATED FORMasMEEM INITIAL FORMalSOLATED FORManWITH ALEF MAKSURA FINAL FORMaxMEEM FINAL FORM
apYEH FINAL FORMayYEH FINAL FORMakISOLATED FORMbcHAH WITH ALEF MAKSURA FINAL FORMakISOLATED FORM
baJEEM INITIAL FORMalSOLATED FORManWITH YEH FINAL FORMayMEEM INITIAL FORMalSOLATED FORM
anWITH ALEF MAKSURA FINAL FORMaxYEH FINAL FORMayYEH FINAL FORMakISOLATED FORM
azEH WITH ALEF MAKSURA ISOLATED FORMbaJEEM INITIAL FORMalSOLATED FORMasMEEM INITIAL FORM
alSOLATED FORManWITH JEEM INITIAL FORMarMEEM INITIAL FORMbbSUPERSCRIPT ALEF INITIAL FORM
bdYEH ISOLATED FORMbaJALLAJALALOUHOUaoEEM WITH ALEF MAKSURA FINAL FORMakISOLATED FORM
baHAH INITIAL FORMalSOLATED FORManWITH ALEF MAKSURA FINAL FORMaxYEH FINAL FORM
axMEEM INITIAL FORMalSOLATED FORManWITH ALEF MAKSURA FINAL FORMaxHAH FINAL FORMakINITIAL FORM
aqYEH FINAL FORMayYEH FINAL FORMakISOLATED FORMbbKAF WITH ALEF FINAL FORMakISOLATED FORM
anMAKSURA FINAL FORMakISOLATED FORMbaHAH INITIAL FORMalSOLATED FORMarJEEM INITIAL FORM
alSOLATED FORMasKHAH INITIAL FORMalSOLATED FORMasLAM FINAL FORMakINITIAL FORMalSOLATED FORM
anMEDIAL FORMapMEEM FINAL FORMakINITIAL FORMalSOLATED FORManMEDIAL FORMalWITH MEEM FINAL FORM
akINITIAL FORMarYEH FINAL FORMayYEH FINAL FORMakISOLATED FORMazHAH WITH ALEF MAKSURA FINAL FORM
akISOLATED FORMbaHAH ISOLATED FORMarJEEM INITIAL FORMalSOLATED FORMasMEEM INITIAL FORM
alSOLATED FORMasYEH FINAL FORMakISOLATED FORMbbLAM WITH ALEF FINAL FORMakISOLATED FORM
anMAKSURA FINAL FORMakISOLATED FORMavWITH HAMZA ABOVE FINAL FORMakISOLATED FORM
atBELOW FINAL FORMakISOLATED FORMazMADDA ABOVE FINAL FORMakISOLATED FORMbjHAH INITIAL FORM
alSOLATED FORManWITH ALEF MAKSURA FINAL FORMaxMEEM FINAL FORMakINITIAL FORMarYEH FINAL FORM
awEH INITIAL FORMaqJEEM INITIAL FORMalSOLATED FORManWITH JEEM FINAL FORMakINITIAL FORM
arMEEM FINAL FORMakINITIAL FORMarYEH FINAL FORMayKHAH INITIAL FORMalSOLATED FORM
anWITH MEEM FINAL FORMakINITIAL FORMbbMEEM FINAL FORMakINITIAL FORMalSOLATED FORManMEDIAL FORM
alWITH HAH FINAL FORMakINITIAL FORMaqYEH FINAL FORMayYEH FINAL FORMakISOLATED FORM
baMEEM WITH ALEF FINAL FORMakMAKSURA ISOLATED FORMbaHAH INITIAL FORMalSOLATED FORM
anWITH JEEM INITIAL FORMarMEEM INITIAL FORMarYEH FINAL FORMaxJEEM INITIAL FORMalSOLATED FORM
anWITH HAH INITIAL FORMaqKHAH INITIAL FORMarMEEM INITIAL FORMarYEH FINAL FORMayKHAH INITIAL FORM
alSOLATED FORManWITH JEEM INITIAL FORMarMEEM INITIAL FORMarYEH FINAL FORMayMEEM FINAL FORM
akINITIAL FORMalSOLATED FORManWITH YEH FINAL FORMayYEH ISOLATED FORMbaOHAMMAD ISOLATED FORM
awNOON WITH ALEF MAKSURA FINAL FORMakISOLATED FORMbaHAH INITIAL FORMalSOLATED FORM
anWITH ALEF MAKSURA FINAL FORMaxMEEM INITIAL FORMarYEH FINAL FORMawEH INITIAL FORMamMEDIAL FORM
apJEEM INITIAL FORMalSOLATED FORManWITH ALEF MAKSURA FINAL FORMaxHAH FINAL FORMakINITIAL FORM
aqMEEM FINAL FORMakINITIAL FORMarYEH FINAL FORMayKHAH INITIAL FORMalSOLATED FORM
asMEEM FINAL FORMakINITIAL FORMalSOLATED FORManMEDIAL FORMalWITH ALEF MAKSURA FINAL FORM
axYEH FINAL FORMayNOON FINAL FORMapREH FINAL FORMaoYEH FINAL FORMakISOLATED FORM
arZAIN FINAL FORMazQAF WITH ALEF MAKSURA FINAL FORMakISOLATED FORMbaHAH INITIAL FORM
alSOLATED FORMarMEEM INITIAL FORMalSOLATED FORManWITH HAH FINAL FORMakINITIAL FORM
aqMEEM FINAL FORMapYEH FINAL FORMayYEH FINAL FORMakISOLATED FORM
ayLA USED AS KORANIC STOP SIGN ISOLATED FORMbrUDDISA SIRRAHaoRADI ALLAAHU ANHaaAAacUMaaAAadNNA
asHIMAHU ALLAAHahM ALLAAHaoSOUL ISOLATED FORMatEH WITH SUPERSCRIPT ALEF ISOLATED FORM
bnSAD WITH ALEF MAKSURA FINAL FORMakISOLATED FORMbaHAH INITIAL FORMalSOLATED FORM
anWITH HAH FINAL FORMakINITIAL FORMaqYEH FINAL FORMaxKHAH INITIAL FORMarMEEM INITIAL FORM
alSOLATED FORManWITH MEEM FINAL FORMakINITIAL FORMbbREH FINAL FORMakISOLATED FORM
arYEH FINAL FORMakISOLATED FORMayLAAMUHU ALAYNAAanM ISOLATED FORMaqLA ISOLATED FORM
anUSED AS KORANIC STOP SIGN ISOLATED FORMboLLAAHU ALAYHI WA-AALIHatHOU ALAYHE WASALLAM
asU ALAYHI WAAALIHEE WA-SALLAMbkEEN WITH ALEF MAKSURA FINAL FORMakISOLATED FORM
baHAH INITIAL FORMalSOLATED FORManMEDIAL FORMalWITH JEEM INITIAL FORMazEH INITIAL FORM
amMEDIAL FORMapJEEM INITIAL FORMalSOLATED FORManMEDIAL FORMalWITH ALEF MAKSURA FINAL FORM
axHAH INITIAL FORMbaKHAH INITIAL FORMalSOLATED FORManMEDIAL FORMalWITH ALEF MAKSURA FINAL FORM
axYEH FINAL FORMayMEEM INITIAL FORMalSOLATED FORManMEDIAL FORMalWITH HAH FINAL FORM
akINITIAL FORMaqJEEM INITIAL FORMarMEEM FINAL FORMakINITIAL FORMbbREH FINAL FORMakISOLATED FORM
arYEH FINAL FORMakISOLATED FORMbaHADDA WITH DAMMA ISOLATED FORManMEDIAL FORMamTAN ISOLATED FORM
awFATHA ISOLATED FORManMEDIAL FORMarKASRA ISOLATED FORManMEDIAL FORMamTAN ISOLATED FORM
awSUPERSCRIPT ALEF ISOLATED FORMboEEN WITH ALEF MAKSURA FINAL FORMakISOLATED FORM
baHAH FINAL FORMakINITIAL FORMalSOLATED FORManMEDIAL FORMalWITH MEEM FINAL FORMakINITIAL FORM
arYEH FINAL FORMawEH INITIAL FORMamMEDIAL FORMapJEEM FINAL FORMakINITIAL FORMalSOLATED FORM
anMEDIAL FORMalWITH YEH FINAL FORMayKHAH FINAL FORMakINITIAL FORMalSOLATED FORManMEDIAL FORM
aqMEEM FINAL FORMakINITIAL FORMalSOLATED FORManMEDIAL FORMalWITH KHAH FINAL FORMakINITIAL FORM
arMEEM FINAL FORMakINITIAL FORMbbREH FINAL FORMakISOLATED FORMarYEH FINAL FORMakISOLATED FORM
bbUBHAANAHU WA TAAALAAavTABAARAKA WA-TAAALAAasH WITH ALEF MAKSURA FINAL FORMakISOLATED FORM
baHAH INITIAL FORMalSOLATED FORMarMEEM INITIAL FORMalSOLATED FORManMEDIAL FORM
alWITH HAH FINAL FORMakINITIAL FORMaqMEEM INITIAL FORMarYEH FINAL FORMayYEH FINAL FORM
akISOLATED FORMazEH WITH ALEF MAKSURA FINAL FORMakISOLATED FORMbaHAH INITIAL FORMalSOLATED FORM
anWITH JEEM FINAL FORMakINITIAL FORMarMEEM INITIAL FORMazEH INITIAL FORMamMEDIAL FORM
apJEEM INITIAL FORMalSOLATED FORManWITH ALEF MAKSURA FINAL FORMaxMEEM INITIAL FORM
arYEH FINAL FORMayKHAH INITIAL FORMalSOLATED FORManWITH ALEF MAKSURA FINAL FORM
axMEEM INITIAL FORMarYEH FINAL FORMayMEEM FINAL FORMakINITIAL FORMalSOLATED FORManMEDIAL FORM
alWITH ALEF MAKSURA FINAL FORMaxHAH INITIAL FORMaqJEEM INITIAL FORMarKHAH INITIAL FORM
arYEH FINAL FORMayNOON FINAL FORMapREH FINAL FORMaoYEH FINAL FORMakISOLATED FORM
arZAIN FINAL FORMaxHAL WITH SUPERSCRIPT ALEF ISOLATED FORMbmEH WITH ALEF MAKSURA FINAL FORM
akISOLATED FORMbaHEH MEDIAL FORMapJEEM ISOLATED FORMasMEEM FINAL FORMakINITIAL FORM
alSOLATED FORManMEDIAL FORMaqNOON FINAL FORMapREH FINAL FORMaoYEH FINAL FORMakISOLATED FORM
arZAIN FINAL FORMazUIGHUR KIRGHIZ YEH WITH HAMZA ABOVE WITH ALEF MAKSURA FINAL FORM
akINITIAL FORMalSOLATED FORMcpWASALLAM ISOLATED FORMawYEH WITH ALEF MAKSURA FINAL FORM
akISOLATED FORMbaHAH INITIAL FORMalSOLATED FORManWITH YEH FINAL FORM
avMZA ABOVE WITH AE FINAL FORMakISOLATED FORMapLEF FINAL FORMakISOLATED FORManMAKSURA FINAL FORM
akISOLATED FORMbaE FINAL FORMakINITIAL FORMalSOLATED FORMapHAH INITIAL FORMalSOLATED FORM
aqEH INITIAL FORMamMEDIAL FORMapJEEM INITIAL FORMalSOLATED FORMasKHAH INITIAL FORM
arMEEM FINAL FORMakINITIAL FORMalSOLATED FORManMEDIAL FORMaqNOON FINAL FORMapOE FINAL FORM
akISOLATED FORMaqREH FINAL FORMaoU FINAL FORMakISOLATED FORMapWAW FINAL FORMakISOLATED FORM
arYEH FINAL FORMakISOLATED FORMaqU FINAL FORMakISOLATED FORMaqZAIN FINAL FORMbfEH INITIAL FORM
amMEDIAL FORMapJEEM INITIAL FORMalSOLATED FORManWITH YEH FINAL FORMayKHAH INITIAL FORM
alSOLATED FORMasMEEM FINAL FORMakINITIAL FORMalSOLATED FORManMEDIAL FORMalWITH MEEM FINAL FORM
akINITIAL FORMarYEH FINAL FORMayNOON FINAL FORMapREH FINAL FORMaoYEH FINAL FORMakISOLATED FORM
arZAIN FINAL FORMayZAH WITH MEEM INITIAL FORMalSOLATED FORManMEDIAL FORMbiMADDA WAAJIBahH ABOVE
akRK NOON GHUNNAalSIDEWAYS NOON GHUNNAaxTHEMATICAL AINacLEFaeBEHadDADabLacOTLESS BEHadFEHadNOON
aeQAFajUBLE-STRUCK AINadBEHadDADabLadFEHadGHAINafHAHadJEEMaeKHAHaeLAMadMEEMaeNOONaeQAFadREHadSAD
acEENadHEENafTAHacEHacHALacEHaeWAWadYEHadZAHabINasFEHadGHAINafHAHadINITIAL AINadBEHadDADadFEH
adGHAINafHAHacEHadJEEMaeKAFacHAHaeLAMadMEEMaeNOONaeQAFadSADacEENadHEENafTEHacHEHaeYEHalJEEMaeKAF
acHAHaeLAMacOOPED AINacLEFaeBEHadDADabLadFEHadGHAINafHAHacEHadJEEMaeKHAHaeLAMadMEEMaeNOONaeQAF
adREHadSADacEENadHEENafTAHacEHacHALacEHaeWAWadYEHadZAHabINalMEEMaeNOONaeOPERATOR HAH WITH DAL
amMEEM WITH HAH WITH TATWEELbjQAFadREHadSADacEENadHEENaeTRETCHED AINadBEHadDADacOTLESS BEHadFEH
alFEHadGHAINafHAHacEHadJEEMaeKAFacHAHaeMEEMaeNOONaeQAFadSADacEENadHEENafTAHacEHacHEHaeYEHadZAH
anTAHabILED AINadDADacOTLESS NOONaeQAFalGHAINafHAHadJEEMaeKHAHaeLAMadNOONaeQAFadSADacEENadHEEN
afYEHajEHacHALacEHaeWAWadYEHadZAHabINarNUMBER MARK ABOVEakSIGNalOPEN DAMMATANaiFATHATAN
aiKASRATANanPERCENT SIGNalIASTRE MARK ABOVEarLACE OF SAJDAHaoOETIC VERSE SIGNapUND MARK ABOVE
aqQUESTION MARKanRAISED ROUND DOTaoYacEVERSED DAMMAanIGHT ARROWHEAD ABOVEaa WITH DOTaoBELOW
auOUNDED HIGH STOP WITH FILLED CENTREbkSEMICOLONaiHADDAaa ISOLATED FORManMEDIAL FORM
arIGN ALAYHE ASSALLAMapMISRAafRADI ALLAHOU ANHUapHMATULLAH ALAYHEasSAFHA
adLLALLAHOU ALAYHE WASSALLAMbaMVATaeNAHaeINDHI AMPERSANDajPOSTPOSITION MENaxTAKHALLUS
anMALL DAMMAafFARSI YEHahTHAafHIGH AINadDOTLESS HEAD OF KHAHauFARSI YEHaiOOTNOTE MARKERapJEEM
aeLAM ALEFahIGATURE ALEF WITH LAM WITH YEHawQAF WITH LAM WITH ALEF MAKSURA
beSAD WITH LAM WITH ALEF MAKSURAbnMADDAaeEEM INITIAL FORMalSOLATED FORMasNOONaa WITH KASRAapQAF
adROUNDED ZEROamSADacEENadIGN SAFHAakTAHacHREE DOTSakUPRIGHT RECTANGULAR ZEROayWAWacORD AL-JUZ
afN-NISFagR-RUBafS-SAJDAahTH-THALATHAamQIFadSAHabKTAafWAQFAakYEHaa BARREE WITH TWO DOTS BELOW
beZAHabINajKASRAafLOW MEEMaeNOON WITH KASRAapSEENaeWAWacORD IMAALAafSHMAAMahTASHEELaqWAWadYEH
aiTART OF RUB EL HIZBatUBSCRIPT ALEFamKUNaa BELOWafISOLATED FORManMEDIAL FORM
apPERSCRIPT ALEF MOKHASSASazYMBOL DOT ABOVEafBELOWahUBLE VERTICAL BAR BELOWazFOUR DOTS ABOVE
afBELOWapRINGaeSMALL TAH ABOVEafBELOWapTHREE DOTS ABOVEafBELOWafPOINTING DOWNWARDS ABOVEafBELOW
biWO DOTS ABOVEafBELOWafVERTICALLY ABOVEafBELOWazWASLA ABOVEasTAIL FRAGMENTalTWEEL
aa WITH FATHATAN ABOVEaoOVERSTRUCK HAMZAafWAWaoTWO DOTS BELOWbaHOUSANDS SEPARATOR
asONE LOOP ABOVEafBELOWakONE DOT ABOVEafBELOWanTWO DOTS ABOVEafBELOWasRIPLE DOT PUNCTUATION MARK
baURNED DAMMA BELOWasVERTICAL TAILamOWEL SIGN DOT BELOWajINVERTED SMALL V ABOVEawSMALL V ABOVE
ayWAVY HAMZA BELOWaqZWARAKAYaj-INDIC CUBE ROOTajDIGIT EIGHTafFIVEadOURaeNINEaeONEadSEVENaeIX
adTHREEaeWOadZEROakFOURTH ROOTalPER MILLE SIGNakTEN THOUSAND SIGNbgCabIES
adMENIAN ABBREVIATION MARKaqPOSTROPHEakCAPITAL LETTER AYBadBENadCAabHAabEHadOacDAacECHacHabT
acFEHadGHADadIMadHOacINIadJAabHEHaeKEHabNadLIWNaeMENadNOWadOHacPEHacIWRaeRAabEHadSEHacHAadTIWN
adOacVEWacOacXEHadYIaaWNaeZAabHEarOMMAafDRAM SIGNajEMPHASIS MARKamXCLAMATION MARKaqFULL STOP
ajHYPHENagMODIFIER LETTER LEFT HALF RINGbeQUESTION MARKanSMALL LETTER AYBadBENadCAabHAabEHadO
acDAacECHacHabTacFEHadGHADadIMadHOacINIadJAabHEHaeKEHabNadLIWNaeMENadNOWadOHacPEHacIWRaeRAabEH
adSEHacHAadTIWNadOabURNED AYBakVEWacOacXEHadYIaa WITH STROKEamWNaeZAabHEajIGATURE ECH YIWN
aiMEN ECHadINIadNOWadXEHahVEW NOWbdROW POINTING DOWNWARDS THEN CURVING LEFTWARDSajRIGHTWARDS
bhRIGHTWARDS THEN CURVING DOWNWARDSajSOUTH WESTakUPWARDSbfUPWARDS THEN NORTH WEST
bhHEAD-SHAPED POINTERawTICULATED LORRYanST PALETTEanSCENDING NODEalIA SYMBOLakSERTIONahTERISK
aa OPERATORakMafONISHED FACEamRAEAadONOMICAL SYMBOL FOR URANUSbcYMPTOTICALLY EQUAL TO
awTHLETIC SHOEalOM SYMBOLakUBERGINEahSTRAL SIGNakTO RICKSHAWajMATED TELLER MACHINEatOBILE
ajVESTAN ABBREVIATION MARKarLETTER AaaAaaNabOacEaaEacNabOacBEabHEadCEacDEabHEadEaaEacFEacGEabGE
acHEadHEabMEadIaaIacJEacKEacLEacMEacNEabGEabVEacYEadNEacYEadOaaOacPEacREacSEabHEabYEadSHEaeTE
abHEacTEadUaaUacVEacXEabVEacYEadYEabYEadZEabHEaqOCADOagXEadBABYaa ANGELafBOTTLEagCHICKafSYMBOL
ajCK OF ENVELOPEalWITH LEFTWARDS ARROW ABOVEbb-TILTED SHADOWED WHITE RIGHTWARDS ARROW
bnSLANTED SOUTH ARROW WITH HOOKED TAILajRIZONTAL TAILbnPACEagONacTRIAN CAMELamDGER
adMINTON RACQUET AND SHUTTLECOCKbfGELacGAGE CLAIMakUETTE BREADamLINESE ADEG ADEG
ajCARIK PAMUNGKAHahRERENahSIKIakDIGIT EIGHTafFIVEadOURaeNINEaeONEadSEVENaeIXadTHREEaeWOadZERO
akLETTER AIKARAafKARAaa TEDUNGalRCHAIC JNYAalSYURA SASAKamBAaa KEMBANGakCAaa LACAahDAaa MADU
adURDA ALPAPRANAajMAHAPRANAasEF SASAKahKARAafGAaa GORAahHAacIKARAaa TEDUNGamJAaa JERAahKA
aa MAHAPRANAakF SASAKaiHOT SASAKakLAaa LENGAaa TEDUNGapMAacNAaa RAMBATaiGAacYAadOKARAaa TEDUNG
amPAaa KAPALaiRAaa REPAaa TEDUNGaoSAaa SAGAacPAahTAaa LATIKafMURDA MAHAPRANAapTAWAagZIR SASAK
akUKARAaa TEDUNGamVE SASAKaiWAacYAacZAL SASAKaqMUSICAL SYMBOL COMBINING BENDEafENDEPafGONG
aeJEGOGANahKEMPLIaa WITH JEGOGANapULaa WITH JEGOGANatTEGEHapDAENGadINGadNGaa GEDEaeSURANGakENG
acUNGaeINGadONGadUNGaeLEFT-HAND CLOSED PLAKacUKalOPEN PANGadINGadUNGatRIGHT-HAND CLOSED TAKacUK
akOPEN DAGacUGbiPAMADAaa LANTANGalENENGagNTIaa LANTANGanSIGN BISAHafCECEKafREREKANahSURANG
agULU CANDRAagRICEMaoVOWEL SIGN LA LENGAaa TEDUNGapPEPETaa TEDUNGamRA REPAaa TEDUNGaoSUKUaa ILUT
ajTALINGaa REPAaa TEDUNGalTEDUNGamEDUNGagULUaa SARIatWINDUalL OF YARNaiET SHOESaiOON
aa-SPOKED ASTERISKasT BOLD SCRIPT XalXaa WITH BALLOTafOLD CHECKafSCRIPT XanCHECKafLIGHT X
ahSCRIPT XaiXakSCRIPT XaiXagMUM COLONadMBINING MARK KOQNDONahTUKWENTISavMAafFULL STOPajLETTER A
abEEacFAAMAEafEEacOMacUacIabKAabENabTabUXadIabOaaGHOMaeVUUaePAacUabYEEaeLAabEEEEaeIabOQacUacMaaA
abBAAacENadEEEEadNacIabOabUacNAabDAAadGAabGAacKWAENagIabJAEMadEEacUAEaeSHAadTEEacUUadUaaAEadYI
adOabPAabEEabUXadHASE-A FIRIaeGBIEE FONaiHEUAEGHEUAEagRAEajKAFAacQacETabUKEUTNDAajPOQadUOQ
aeLAPAQaeET KUTagOMMAEafUaaAEPafMAEKEUPaeMaaBGBIEEagKPENaeVEUXafNYIadSIadNSUAEafP PIEETaiBANYI
adQadEUNJOMNDEUQalGBASAafON NGGEUAETakOMEUTadPUQagVEUAENGAMakNAA MFONagQacDA LEERAEWAajANGGEUAET
alENacGANGUaeGENadKUE MFONafNZEUMajIKAadJAMadKAARAEafINDIafSHAabIEEafTAPaa MFAAaeNTAAahOQPEN
agYETacIaaT MONGKEUAEQaoZA MFONagUN MEUTajPA LEERAEWAajAMabRAEaeMSHAEafSHAEafET
acON MFON PIPAEMBAacGBIEEaqPA NJI PIPAEMBAacGBIEEavUPadROMadSEUNYAMagHINDA PA NJIakRAE
aeOQ NSHUT YUMamUENSHUETahMadISAadONJAMaeQabTacUUadTEUAENadTEUWENaiITA MFONaiU MAEMBAahAEP
afU YUQ NAEaiNKNOWNahVEEafB FEEabUXaeGHEUGHENabUAEMalKAMacEUAEMadPUQadYEUXagIEEMadQadLAANAE
aeM NSHUT NYAManETacOM NTEUMajMAaa NJEUAENAagUQAahBA MAELEEahARAEafEURIaeIT MBAAKETakUOQaeEUQ
abT NGGEETakFIYAQaeON TEUAEQakONTIEENaiNDU NJAAahGGAAMadEU MBUagUOQaa LARGEakKINDI MVOPakOMadSEN
acHUETafTIEE SHEUOQalYAEMAEafI NTEUMajPARUMaeEESHIafITacUNGAAMahSAKEUAEagET TUafHET NJAQagUAEQTU
aiIEEadUEadTAAMadU MAEMGBIEEajNSIEEaiVEUMaeWUAETafYAFU LEERAEWAamEURAEaiC BUNGaeFUEadGBAYIaeHAP
abRAEagKAAacEN FATIGUEahLAWafTabUKAQadMabSEUXadHEUAEPajPARAQafUOP NKAARAEakTadLAMabPacIQacU
acMA KEUAERIahNSIEEagEMBAadSIaeBAA CABBAGE-TREEamPICKETaiNYIaeEEKEETafRAEadUMabXadIaaRIEENafT
acUAEMadEadGBASAQagIEEadUAEaeNANSANAQagQacDAMabPacEUAEREEafTadIDAadOMBUafGAQacGENacUaaAEN NYAM
aiEETadMabONaeKAQacUE MAEMBAakOMadJAEMacMacEEEEadUXadUEQaeSAabEUAENafHAQadOMacUNabOT NGOMajTAA
acENabUNGBAagU MBITahYIR MKPARAQ MEUNaqZAabEUMafPENacINabRIEENahRUacSETFONaeUXadHIQacUEQaeUAET
afTAASHAEagETabUTEUXagITA YUEafUAEPahVEUAEPENafXaeWANGKUOQahUPadYAAacEUQadU MUOMAEahMabWOQ
ahD FAAacEUFEUAETajGHAAacEUAEagKETabUAETMEUNahMabOT MBUAEaiPadUaaNabOMacQacWAETaeYEEaeLEEEEadT
abUAEPadMadIEEadOQacUMadMaaAENJETafLEERIagBAAaa SEVENaiUOadEEEEadUNabTadFEUAEacTadIEEadOaaN
adGBEUNadIEEadOFUMagONIadUabVOPaeNDAMacEEabUXadONadGGAAMaaAEaePacEUXadUOMadWAENafKAPacEUAEQadRI
aeIEEadUNacYEEafIabJAPacEUAEMadTadIaaEEadUEQaeSHEEacUTadIEEPabTaeUMadTEEabUMadUUadUabYAMacETacI
abUEaePAPacEEabUTAEafIPacUQabUTaeRAEMadEN MUCHaeOLDagIIadSAPabQacEUAEQafHEEabUAEacXadIIacOQacU
acOTacUAEacEabUadTAEacEEEEadUAENadNabTadIabOQacUaaOTaeWAPacUAENafYAEMMAEagENacUOMabPacWOQahE A
abFAaaQacEEacOMacU CALLaeIabREMEDYahEaaTaeGBETabUXaeHAAMAEafETabUAEacNabXadOMaeIabKETabUAEacXadI
abOabPEUXaeUETacOPacTadLAAMacPabQacEUAEMafOMabONabTacQacUacMAaaEaaMacPabQacBEEabUMaeENacFEUQ
aeGBAabENaeIaaEEadONacUAEadVIadNAaaEacDAA MY HOUSEaiSOFTNESSakPacIAQacQacUNadGAabEUREUTagGEEEE
adUAEaaTafUAESHAE NYAMalPabRAEafKAaaAMIaeEUAEMadXadUMabPadOPabQacUAEaaTafJAEMLIafEEaa EPOCHahUX
aeKOMadSHIEEadUEabOPafTAPacUMadYI BETWEENahCLEAVERakZAQacUQaeOabPA PEOPLEafLURALahAaaMadEEMacUT
abXadIaaEEQacTadOaaONadUaaAEabQacEabMadRAEabQacEUXadIMGBAagSAAacEEabTacHEUAEQafIQacOaaQadOM
acUAENafTAAaaQacEN NTEUMaiMabQacENabUaaAEQafOOaaNacQacUAEacMaaAEafVEEabUAEaeOMadWEUXadUEabOadYAP
acEUAEaaTadMabXadIEEacTacOQ COVERafSWIMMINGalUAENadEQacNabQafF EEacFOMadKAabENabTacOabPAacUabYEE
aeLAabIabOQadMaaAabBAAacENadEEEEaeOacNDAAadGGAacKWAENagIabJAEMadUAEaeSHAadTEEadUaaAEadYIadPEE
abUXadUAEaeREEabNabUXadIEEacIacUacSAMBAaeEUXadHIIacOabUacIabUUadTAAabEacETadUabVUEQaeWAabUEadYA
abOQakIabUAEacEadRAEacEEabNabUXadIEEacIacUacSAMBAaeEUXadHEUXadIIacOabUacIabUUadTAAabEacENabTacI
acUabWAabUEadYAabOQacUQakNJAEMLIahQUESTION MARKanSEMICOLONanNANAadJOacKaaNOTE WITH DOLLAR SIGN
alEURO SIGNajPOUND SIGNakYEN SIGNauR CHARTafOF SOAPaiBER POLEajSEBALLafKETaaBALL AND HOOP
aqSA VAH COMBINING HIGH TONEaf-LOW TONEanLOW TONEaf-MID TONEamMID TONEasFULL STOPajLETTER AabBA
acCEacDHIIadOacEaaEabNNIaeFAacGAHacBUadHWAHaeIabJOacKAabPAHaeMBEadOaaOacPAacSEacTOacUaaWUadVU
acWAaaDDAafYEINadIEadZOarTaaAK CONSONANT SIGN HabNGarLETTER AabBAacCAacDAacGAacHAacIabJA
acKARO BAahLAacMAaaNDAILING HAacNAacSAamBAadNAabDAacGAacORTHERN TAakYAadPAaaKPAK WAajRAacSA
abIMALUNGUN AabGAacHAacLAacMAacPAacRAacSAacWAacYAamOUTHERN TAalUabWAacYAajPANGOLATafONGONAN
akSIGN TOMPIajYMBOL BINDU JUDULafNA METEKaiPANGOLATahINARBORASaxVOWEL SIGN EaaEacIabKARO IabOagO
abPAKPAK EaiUaa FOR SIMALUNGUN SAbhHaaTUBaeTERYagEACH WITH UMBRELLAaqMED ASCENDING MUSICAL NOTES
axDESCENDING MUSICAL NOTESayEIGHTH NOTESamSIXTEENTH NOTESatNSacR FACEafDED PERSONalTING HEART
akVERaeCAUSEafDabER MUGafTLEaeLaaLaa PEPPERagSYMBOLagWITH CANCELLATION STROKEazHOP BELL
akNGALI ABBREVIATION SIGNaqNJIadU LENGTH MARKaoCURRENCY DENOMINATOR SIXTEENatNUMERATOR FOURaeONE
aa LESS THAN THE DENOMINATORbdTHREEaeWOawDIGIT EIGHTafFIVEadOURaeNINEaeONEadSEVENaeIXadTHREEaeWO
adZEROakGANDA MARKakISSHARagLETTER AaaAabIabUacBAabHAadCAabHAadDAabDAabHAadHAadEabGAabHAadHAacI
aaIacJAabHAadKAabHAaaNDA TAajLAacMAacNAabGAacNAacYAadOabPAabHAadRAaa WITH LOWER DIAGONAL
aoMIDDLE DIAGONALawHAacRAadSAabHAacSAadTAabHAacTAabHAaeUaaUacVEDIC ANUSVARAanOCALIC LaaLacRaaR
akYAabYAakRUPEE MARKaeSIGNakSANDHI MARKakIGN ANUSVARAahVAGRAHAaiCANDRABINDUalNUKTAafVIRAMA
aeSARGAamVOWEL SIGN AAabIabUacEabIaaIacOabUaaUacVOCALIC LaaLacRaaR
baT ARROW POINTING DOWNWARDS THEN NORTH EASTbpO BOXagZENE RINGaa WITH CIRCLEawT SYMBOLahWEEN
afVERAGE BOXalHAIKSUKI DANDAaeIGIT EIGHTafFIVEadOURaeNINEaeONEadSEVENaeIXadTHREEaeWOadZERO
ajOUBLE DANDAamGAP FILLER-1ab2amHUNDREDS UNIT MARKasLETTER AaaAabIabUacBAabHAadCAabHAadDAabDA
abHAadHAadEabGAabHAadHAacIaaIacJAabHAadKAabHAadLAacMAacNAabGAacNAacYAadOabPAabHAadRAacSAabHAacSA
adTAabHAacTAabHAaeUaaUacVAabOCALIC LabRaaRakYAajNUMBER EIGHTaaYagFIFTYadVEadORTYadURaeNINEaaTY
agONEadSEVENaaTYagIXaaTYafTENacHIRTYaeREEaeWENTYaeOakSIGN ANUSVARAahVAGRAHAaiCANDRABINDUalVIRAMA
aeSARGAamVOWEL SIGN AAabIabUacEabIaaIacOabUaaUacVOCALIC LabRaaRavWORD SEPARATORaxICYCLEabIST
ahG REVERSE SOLIDUSapSOLIDUSajKINIaeLLED CAPagIARDSahOHAZARD SIGNamRDabTHDAY CAKEalSON
adTCOIN SIGNajING LIPajLACK BOWTIEagCENTRE WHITE STARaqHESS BISHOPaa ROTATED NINETY DEGREES
aoTWO HUNDRED SEVENTY DEGREESbqEQUIHOPPERaa ROTATED NINETY DEGREESbhKING
aa ROTATED NINETY DEGREESaoTWO HUNDRED SEVENTY DEGREESbnNIGHTaa ROTATED FORTY-FIVE DEGREES
asNINETY DEGREESaoONE HUNDRED THIRTY-FIVE DEGREESbfTHREE HUNDRED FIFTEEN DEGREES
bcWO HUNDRED SEVENTY DEGREESapTWENTY-FIVE DEGREESbo-BISHOPagQUEENafROOKalPAWN
aa ROTATED NINETY DEGREESaoTWO HUNDRED SEVENTY DEGREESboQUEENaa ROTATED NINETY DEGREES
aoTWO HUNDRED SEVENTY DEGREESbpROOKaa ROTATED NINETY DEGREESaoTWO HUNDRED SEVENTY DEGREES
boTURNED BISHOPagKINGadNIGHTagPAWNaeQUEENafROOKaqIRCLEaa FOR RECORDakWITH DOWN ARROW
akTWO WHITE DOTSaoWHITE DOT RIGHTbaLUB SUITaiROSS ON SHIELDaoURVED DOWNWARDS AND LEFTWARDS ARROW
apRIGHTWARDS ARROWbeLEFTWARDS AND DOWNWARDS ARROWapUPWARDS ARROWbbRIGHTWARDS AND DOWNWARDS ARROW
apUPWARDS ARROWbcUPWARDS AND LEFTWARDS ARROWapRIGHTWARDS ARROWbjDIAMONDaa CENTREDahMINUS WHITE X
anON CROSSaiSUITaeWITH DOWN ARROWawOWN POINTING BACKHAND INDEXay-POINTING DOUBLE TRIANGLE
apISOSCELES RIGHT TRIANGLEaySMALL TRIANGLEaoTRIANGLEasWARDS EQUILATERAL ARROWHEADbeRAUGHTS KING
aeMANakOPLETahFLAGacORETTEahOLDERaeUR POINTED STARarHARD SHELL FLOPPY DISKavEARTaa SUITaiXAGON
agORIZONTAL ELLIPSEaqURGLASSajLARGE CIRCLEagSQUAREalEFT LANE MERGEakPOINTING BACKHAND INDEX
aoINDEXap-POINTING DOUBLE TRIANGLEaa WITH VERTICAL BARbhISOSCELES RIGHT TRIANGLEayPOINTER
ahSMALL TRIANGLEaoTRIANGLEasWARDS BULLETagEQUILATERAL ARROWHEADbeOWER LEFT TRIANGLE
anRIGHT TRIANGLEasZENGEahMEDIUM DIAMONDagOWN-POINTING TRIANGLEaa CENTREDbeLEFT-POINTING TRIANGLE
aa CENTREDbdOZENGEahRIGHT-POINTING TRIANGLEaa CENTREDbfSMALL DIAMONDahLOZENGEahSQUAREalQUARE
agUP-POINTING TRIANGLEaa CENTREDbiOON LILITHalNIBadOCTAGONahPARALLELOGRAMamENNANTaeTAGONahUSHPIN
ahQUESTION MARK ORNAMENTawRECTANGLEaiIGHT POINTING BACKHAND INDEXaoINDEX
ap-POINTING DOUBLE TRIANGLEaa WITH VERTICAL BARbhISOSCELES RIGHT TRIANGLEayPENTAGONahOINTER
ahSMALL TRIANGLEaoTRIANGLEaa WITH DOUBLE VERTICAL BARbrWARDS ARROWaaHEADajBULLET
agEQUILATERAL ARROWHEADbfOSETTEahSAFETY SCISSORSaoCISSORSahHOGI PIECEakKULL AND CROSSBONES
atLIGHTLY SMALL CIRCLEagSQUAREauMALL DIAMONDahLOZENGEahSQUAREafTARaiILING FACEalNOWMAN
agPADE SUITajQUAREaa BUTTONagCENTREDahFOR STOPaoTARadUN WITH RAYSanTELEPHONEaiINY DIAMOND
ahLOZENGEahSQUAREakOUCHTONE TELEPHONEasRUCKaeWO-WAY LEFT WAY TRAFFICayUNIVERSAL RECYCLING SYMBOL
azP POINTING BACKHAND INDEXay-POINTING DOUBLE TRIANGLEapISOSCELES RIGHT TRIANGLEaySMALL TRIANGLE
aoTRIANGLEasPER LEFT TRIANGLEanRIGHT TRIANGLEasWARDS EQUILATERAL ARROWHEADbdVERTICAL ELLIPSE
ahRECTANGLEapY SMALL DIAMONDahLOZENGEahSQUAREas-FEATHERED NORTH EAST ARROWaqRIGHTWARDS ARROW
aqSOUTH EAST ARROWbaLETTER CAPITAL CabHabIabRabZatNK SYMBOLakOCK SEXTANT-1aa2aa3aa4aa5ab6ac5aa6
ac6ac4aa5aa6ac6ac5aa6ac6ac3aa4aa5aa6ac6ac56ac6ac4aa5aa6ac6ac5aa6ac6ac2aa3aa4aa5aa6ac6ac5aa6ac6
ac4aa5aa6ad5aa6ac6ac3aa4aa5aa6ac6ac5aa6ac6ac4aa5aa6ac6ac5aa6ac6amSSOMaeWFISHagUE BOOKaeHEART
agBERRIESakOARacLD EIGHT SPOKED ASTERISKavFIVE SPOKED ASTERISKauGREEK CROSSalSALTIRE
agIX SPOKED ASTERISKatWHITE CIRCLEagSQUAREapMaaBacNEacOKaaMARKaa TABSajSacMERANG
ahPOMOFO FINAL LETTER GabHabKabPabTaoLETTER AaaHabIaaNNadMabNaaGabNacUaaNNaeBaaUacCaaHacDabEaaE
abHabIabNaaGabNacRacFabGaaHabNabUabWacHabIaaHabMabNNaaNadRabUacJaaIacKaaWacLaaHacMabNaaGaaGacN
acOaa WITH DOT ABOVEapEabMabNGabNacOabUacPabQabRabSaaHacTabUaaNNadVabXabZaaHabIabY
aqTTLE WITH POPPING CORKauOM ARC ANTICLOCKWISE ARROWaxCURLY BRACKETanHALF BLACK CIRCLEamINTEGRAL
aiLEFT PARENTHESISaqRIGHT PARENTHESISawLEFT CORNERafROPaeHALF BRACKETarPARENTHESISalRIGHT CORNER
afROPaeHALF BRACKETasSQUARE BRACKETaa OVER TOP SQUARE BRACKETbmTORTOISE SHELL BRACKETbbUQUET
aa OF FLOWERSaqW AND ARROWakL OF HYGIEIAakWITH SPOONalINGaeTIEaa WITH LEFT HALF BLACK
apRIGHT HALF BLACKbaX DRAWINGS DOUBLE DOWN AND HORIZONTALakLEFTaeRIGHTaoHORIZONTAL
akUP AND HORIZONTALakLEFTaeRIGHTamVERTICALaa AND HORIZONTALakLEFTaeRIGHT
axWN DOUBLE AND HORIZONTAL SINGLEarLEFT SINGLEalRIGHT SINGLEaxHEAVY AND HORIZONTAL LIGHT
aqLEFT LIGHTafUP LIGHTanRIGHT LIGHTafUP LIGHTaoUP HORIZONTAL LIGHTbdLIGHT AND HORIZONTAL HEAVY
aqLEFT HEAVYafUP HEAVYanRIGHT HEAVYafUP HEAVYaoUP HORIZONTAL HEAVYbdSINGLE AND HORIZONTAL DOUBLE
arLEFT DOUBLEalRIGHT DOUBLEbcHEAVY DOUBLE DASH HORIZONTALakVERTICALasWNaa AND HORIZONTALakLEFT
aeRIGHTaoHORIZONTALakLEFTaa AND LIGHT RIGHTauQUADRUPLE DASH HORIZONTALakVERTICALaxRIGHT
afTRIPLE DASH HORIZONTALakVERTICALauUPaa AND HORIZONTALakLEFTadIGHT DOWNakRIGHTamVERTICAL
aa AND HORIZONTALakLEFTaeRIGHTayLEFT DOWN HEAVY AND RIGHT UP LIGHTbdHEAVY AND RIGHT DOWN LIGHT
akUP LIGHTaiVERTICAL LIGHTbeLIGHT AND RIGHT DOWN HEAVYakUP HEAVYaiVERTICAL HEAVY
beUP HEAVY AND RIGHT DOWN LIGHTbhIGHT ARC DOWN AND LEFTaeRIGHTaoUP AND LEFTaeRIGHT
aqDIAGONAL CROSSafDIAMONDahMIDDLE LEFT TO LOWER CENTREaa TO MIDDLE RIGHT
bcUPPER CENTRE TO MIDDLE RIGHTaa TO LOWER CENTREcaRIGHT TO LOWER CENTRE
amUPPER CENTRE TO MIDDLE LEFT TO LOWER CENTREchUPPER CENTRE TO MIDDLE LEFT
aa AND MIDDLE RIGHT TO LOWER CENTREbgTO LOWER CENTREaa TO MIDDLE RIGHTbkRIGHT
aa AND MIDDLE LEFT TO LOWER CENTREbfTO LOWER CENTREaa TO MIDDLE LEFTcbLEFT TO LOWER RIGHT
atRIGHT TO LOWER LEFTbhOUBLE DASH HORIZONTALakVERTICALasWNaa AND HORIZONTALakLEFTaeRIGHT
aoHORIZONTALaa WITH VERTICAL STROKEbfLEFTaa AND HEAVY RIGHTauQUADRUPLE DASH HORIZONTALakVERTICAL
axRIGHTafTRIPLE DASH HORIZONTALakVERTICALauUPaa AND HEAVY DOWNajORIZONTALakLEFTaeRIGHTamVERTICAL
aa AND HORIZONTALakLEFTaeRIGHTayRIGHT DOWN HEAVY AND LEFT UP LIGHTbcHEAVY AND LEFT DOWN LIGHT
akUP LIGHTaiVERTICAL LIGHTbdLIGHT AND LEFT DOWN HEAVYakUP HEAVYaiVERTICAL HEAVY
bdUP HEAVY AND LEFT DOWN LIGHTbiUP DOUBLE AND HORIZONTAL SINGLEarLEFT SINGLEalRIGHT SINGLE
axHEAVY AND DOWN HORIZONTAL LIGHTavHORIZONTAL LIGHTaqLEFT DOWN LIGHTakLIGHTakRIGHT DOWN LIGHT
akLIGHTavLIGHT AND DOWN HORIZONTAL HEAVYavHORIZONTAL HEAVYaqLEFT DOWN HEAVYakHEAVY
akRIGHT DOWN HEAVYakHEAVYavSINGLE AND HORIZONTAL DOUBLEarLEFT DOUBLEalRIGHT DOUBLE
baVERTICAL DOUBLE AND HORIZONTAL SINGLEarLEFT SINGLEalRIGHT SINGLEaxHEAVY AND HORIZONTAL LIGHT
aqLEFT LIGHTakRIGHT LIGHTavLIGHT AND HORIZONTAL HEAVYaqLEFT HEAVYakRIGHT HEAVY
avSINGLE AND HORIZONTAL DOUBLEarLEFT DOUBLEalRIGHT DOUBLEbqING GLOVEakYaaS SYMBOLakPH
acRAHMI DANDAaeIGIT EIGHTafFIVEadOURaeNINEaeONEadSEVENaeIXadTHREEaeWOadZEROajOUBLE DANDA
amLETTER AaaAabIabUacBAabHAadCAabHAadDAabDAabHAadHAadEabGAabHAadHAacIaaIacJAabHAadKAabHAadLAabLA
adMAacNAabGAacNAacYAadOaaLD TAMIL LLAabLAaeNNNAaeRRAadSHORT EabOarPAabHAadRAacSAabHAacSAadTAabHA
acTAabHAaeUaaUacVAabOCALIC LaaLacRaaRakYAajNUMBER EIGHTaaYagFIFTYadVEadORTYadURaeJOINERagNINE
aaTYagONEaa HUNDREDahTHOUSANDamSEVENaaTYagIXaaTYafTENacHIRTYaeREEaeWENTYaeO
akPUNCTUATION CRESCENT BARamDOTabUBLE DOTakLINEadOTUSarSIGN ANUSVARAaiCANDRABINDUalJIHVAMULIYA
alOLD TAMIL VIRAMAaqUPADHMANIYAalVISARGAamVIRAMAafOWEL SIGN AAabIabUacBHATTIPROLU AAaoEabIaaIacO
aaLD TAMIL SHORT EabOarUaaUacVOCALIC LaaLacRaaRazILLE PATTERN BLANKafDOTS-1aa2aa3aa4aa5aa6aa7aa8
ac8ac7aa8ac8ac6aa7aa8ac8ac7aa8ac8ac5aa6aa7aa8ac8ac7aa8ac8ac6aa7aa8ac8ac7aa8ac8ac4aa5aa6aa7aa8ac8
ac7aa8ac8ac6aa7aa8ac8ac7aa8ac8ac5aa6aa7aa8ac8ac7aa8ac8ac6aa7aa8ac8ac7aa8ac8ac3aa4aa5aa6aa7aa8ac8
ac7aa8ac8ac6aa7aa8ac8ac7aa8ac8ac5aa6aa7aa8ac8ac7aa8ac8ac6aa7aa8ac8ac7aa8ac8ac4aa5aa6aa7aa8ac8ac7
aa8ac8ac6aa7aa8ac8ac7aa8ac8ac5aa6aa7aa8ac8ac7aa8ac8ac6aa7aa8ac8ac7aa8ac8ac2aa3aa4aa5aa6aa7aa8ac8
ac7aa8ac8ac6aa7aa8ac8ac7aa8ac8ac5aa6aa7aa8ac8ac7aa8ac8ac6aa7aa8ac8ac7aa8ac8ac4aa5aa6aa7aa8ac8ac7
aa8ac8ac6aa7aa8ac8ac7aa8ac8ac5aa6aa7aa8ac8ac7aa8ac8ac6aa7aa8ac8ac7aa8ac8ac3aa4aa5aa6aa7aa8ac8ac7
aa8ac8ac6aa7aa8ac8ac7aa8ac8ac5aa6aa7aa8ac8ac7aa8ac8ac6aa7aa8ac8ac7aa8ac8ac4aa5aa6aa7aa8ac8ac7aa8
ac8ac6aa7aa8ac8ac7aa8ac8ac5aa6aa7aa8ac8ac7aa8ac8ac6aa7aa8ac8ac7aa8ac8asNadEADabK PERMITTED HERE
aqST-FEEDINGalVEadICKacDE WITH VEILalGE AT NIGHTamEFCASEaeSaeOCCOLIafKEN BAR
adCIRCLE WITH NORTHWEST ARROWbbHEARTajOMacWN HEARTakSabUBBLE TEAaeSafCKETaeG
aaINESE END OF SECTIONaoLETTER AabBAacCAacDAacGAacHAacJAacKAacLAacMAabPAadNAabGAabKAadRAacYAabCA
aePAacRAacSAacTAacVAacYAajPALLAWAahVOWEL SIGN AEacEabIabOabUatHID LETTER AabBAacDAacGAacHAacI
abKAacLAacMAacNAabGAadPAacRAacSAacTAacUabWAacYAajVOWEL SIGN IabUaqILDING CONSTRUCTIONatLLET
aa OPERATORalHORNaa WITH SOUND WAVESavSEYEagRRITOafSaa STOPafT IN SILHOUETTEaoS IN SILHOUETTE
arTTERaaFLYaiYTE ORDER MARKanZANTINE MUSICAL SYMBOL AGOGI ARGIabOTERIaiGORGIabOTERIajMESIacTRIA
agPOLI ARGIaeGORGIapNATRICHISMAakTIKENOKYLISMAahMAajPESO EKFONITIKONakXO NEOalLI
acODERMA ARCHAIONaiNEOajSTROFOI SYNDESMOS NEOanTELOUS ICHIMATOSasSaa DIPLIafNEOalTHEMAahRGON
abSYNTHETONalKTIKO DIacGAacKEacNIacPAacVOUadZOakCHAMILIabONagOREVMA ARCHAIONaiNEOakROA KLITON
agSPATHIagZYGOSalDASEIAafIARGONaeSTOLI APLI MEGALIafIKRIakDIPLIafTHESEOSaoESIS APLI DYO DODEKATA
arDIGRAMMOS EX DODEKATAavMONOGRAMMOS TESSERA DODEKATAbcTETARTIMORIONamRIGRAMMOS OKTO DODEKATA
avTIMORIONaqFTOGGOS OUakGORGONaa PARESTIGMENON ARISTERA ANOadKATOanDEXIAazRAMMA GGajPLI
aa ARCHAIONanYOadEKSTREPTONajLAFRONagNARXIS KAI FTHORA VOUauDOFONONaiPEGERMA
ahTERON ARGOSYNTHETONanPARAKALESMAarXO EKFONITIKONapFANEROSIS DIFONIASaiMONOFONIASakTETRAFONIAS
auHTORA SKLIRON CHROMA VASISbaTHORA ARCHAIONaa DEYTEROU ICHOUaxDIATONIKI DIacKEacNANAadI ANO
adKATOahPAacZOamENARMONIOS ANTIFONIAauI YFESIS TETARTIMORIONawMALAKON CHROMA DIFONIAS
aiMONOFONIASazNAOS ICHOSajENANOagSKLIRON CHROMA SYNAFIagVASISamDIATONON DIbaGENIKI DIESIS
agYFESISamORGON ARCHAIONaiNEO ANOadKATOaiPARESTIGMENON ARISTERAaiDEXIAavSYNTHETON
alTHMIKON N APLOUNagDIPLOUNatRONTHISMATAamICHADINagMIDIARGONahFONONaeTHORAabON
ajSAKIA TELOUS ICHIMATOSavON ARCHAIONaiNEOaiKATAVA TROMIKONajSMAagHISTIahENTIMA ARCHAION
aiNEO ANOadKATOaeMESOajTAaa ARCHAIONaiNEO ANOadKATOaeMESOarLASMAaa ANOadKATOakONTEVMAaa ALLO
alRONISafUFISMAahRATIMA ALLOadRCHAIONaiNEOaeTAadOKOUFISMAaiYPORROONanEMASTIahYLISMA
ahLEIMMA DYO CHRONONalENOS CHRONOUamIMISEOS CHRONOUapTESSARON CHRONONapRION CHRONONasMOIaeYGISMA
ahMARTYRIA ALLI DEYTEROS ICHOSaoPROTOS ICHOSarDEYTEROS ICHOSaoLEGETOS ICHOSanPLAGIOS ICHOS
afTETARTOS ICHOSavROTOS ICHOSahVARYS ICHOSaqTETARTOS ICHOSafLEGETOS ICHOSavRIFONIASagTOS ICHOS
amVARYS ICHOSatIKRON ISONalNANAaeOLIGON ARCHAIONaiNEOajMALONafXEIA DIPLIafEKFONITIKONalNEO
aeI ARCHAIONaoYRANISMA ARCHAIONaiNEOanPARAKALESMA ARCHAIONaiNEOakLITIKIaa ARCHAIONaiNEOamICHON
ahELASTONaa NEOakRISPOMENIajTASMAacTIabOKOUFISMAaoIASMA ARCHAIONaiNEOajSIFISTOLYGISMAahNaa NEO
afPARAKALESMAalSYNAGMAamLIabONagRAPISMAagEVMAafSAXIMATAahEISMAaa NEOajIMANSIS ARSEOSaa DISIMOU
ahTETRASIMOUajRISIMOUapTHESEOSaa DISIMOUahTETRASIMOUajRISIMOUayTAVROSaa APODEXIAaoIGMA
aeRAGGISMATAalYNAGMA ARCHAIONaiMETA STAVROUamNEOaiEVMAafRMAaaTIKIajTELEIAaeSSERAafTRAPLIahHEMA
aa APLOUNahTISMOS ESOacXOamS KAI APOTHESaoITAaeINAGMAagRIAabGORGONagPLIaeOMIKOLYGISMAahN ALLO
adRCHAIONaiNEOafPARAKALESMAakSIFISTONajSYNAGMAaoVAREIA DIPLIafEKFONITIKONalNEOaeI ARCHAIONaoTHY
afXIRON KLASMAamYFEN ANOadKATOagSIS APLI DYO DODEKATAarDIGRAMMOS EX DODEKATA
avMONOGRAMMOS TESSERA DODEKATAbcTRIGRAMMOS OKTO DODEKATAavTIMORIONarPOKRISISaa DIPLIamRROIafSILI
bfCACTUSaeDA UNAafUCEUSagLENDARafL ME HANDakMERAaa WITH FLASHaoPINGafNaaADIAN SYLLABICS AaaAaaI
abYacIaaVILIK BaiNabTHAPASCAN MabSalYacBEAVER DENE LabRamIBLE-CREE YalLACKFOOT AabEabIabKAabEabI
abOacNAabEabIabOacOabSabWaaAabEabIabOamCaaAaaAaaIacRRIER CHAabEaaEacIabOabUadDEEabNE GEEafTAL S
ahIabLAabEaaEacIabOabUacZAabEaaEacIabOabUadEEacGAaaAacEaaEacHAabEaaEacIabOabUacIabOabUabWAabUadH
aaEEacIabWAabEaaEacIabOabUadIaaNITIAL ZajJAabEaaEacIabJAabEaaEacIabOabUacOabUabWAadKHAabEaaEacI
abOabUacKaaAabEaaEacIabOabUadLAabEaaEacHAabEaaEacIabOabUacIabOabUacMAabEaaEacIabOabUacNAabEaaE
acGabIabOabUacPaaAabEaaEacIabOabUacRAabEaaEacIabOabUacSAabEaaEacHaaAabEaaEacIabOabUacIabOabU
acTHAabEaaEacIabOabUacLAabEaaEacHAabEaaEacIabOabUacIabOabUacSAabEaaEacIabOabUacTAabEaaEacIabO
abSAabEaaEacIabOabUacUadWAabEaaEacIabOabUacYAabEaaEacIabOabUacZaaAabEaaEacIabOabUajEabHI SIGNahI
aaIacOaaOacWAaaAacEabIaaIacOaaOaeEaaASTERN WaiNacFaaAaaAaaIadEabIaaIabNAL ACUTE
afBOTTOM HALF RINGaqDOUBLE ACUTEafSHORT VERTICAL STROKESbbWN TACKajGRAVEafMIDDLE DOTakPLUS
aeRAISED DOTajIGHT HALF RINGanNGaeSHORT HORIZONTAL STROKEawMALL RINGakTOP HALF RINGasOaaO
acULL STOPaiWAAaeGLOTTAL STOPamHKabYPHENagIaaIabNacKaaAaaAaaIacYacEabIaaIacOaaOacWaaAaaAabYacE
abIaaIacOaaOaeLaaAaaAaaIacYacEabHaaAaaAacIaaIacOaaOadIaaIacOaaOacWAaaAacEabIaaIacOaaOaeMaaAaaA
aaIacYacEaaDIAL LabRahHabIaaIacOaaOaaSE-CREE SKamWAaaAacEabIaaIacOaaOaeNaa-CREE THEabIaaIakAaaA
aaIacSKAPI CWAAaeKWAAaeMWAAaeNWAAaeS-WacCWAadKWaaAadPWAadTWAadWAAaeTWAAaeWAAacOOadYWAA
akTTILIK HAaaAacIaaIacOaaOadSHRAaaAacIaaIacOaaOamYacEabGaaAaaAaaIacIacIaaIacOaaOadHabIaaIacNGaaA
aaAacIaaIacOaaOaeOaaOabYacUNAVIK HaaAaaAacEabIaaIacOaaOagUT HaiWAaaAacEabIaaIacOaaOaeOaaJIBWAY C
abKabMabNaaWIaaIacOaaOaePabSaaHacTaiNabOabYacPaaAaaAaaIacYacEabIaaIacOaaOabYacWAaaAacEabIaaIacO
aaOabYaeQaaAaaAaaIacIacIaaIacOaaOadRaa-CREE REabWEajAaaAaaIacYacEabIaaIacOaaOacWAaaAacEEacIaaI
acOaaOaeSaaAaaAaaIacYaaISI HAabEabIabOaaOadJIabUaaUadMabSHAabEabIabOaaOacWEaeTHacYIaiEabHaaAaaA
abYacEabIaaIacOaaOabYacWAaaAacEabIaaIacOaaOabYaeIaaIacOaaOabUTH-SLAVEY KAHacEHacIHacOHaoYacPAabE
abIabOacWaaAaaAacEabIaaIacOaaOaeTaaAaaAaaIacYacEabHaa-CREE THaaAaaAacEabIaaIacOaaOakAaaAacEabI
aaIacOaaOacWAaaAacEadIaaIacLHAabEabIabOaaOacWEaeOaaOacTAabEabHaaAaaAacEabIabOaaOacWEadIabOacWA
aaAacEabIaaIacOaaOadYAabEabIabOadWAaaAabYacEaaST-CREE CWAaaAacEabIaaIacOaaOaeFWAAaeKWAaaAacEabI
aaIacOaaOaeLaaAaaAacEabOaaOacWAaaAacEabIaaIacOaaOaeMaaWAaaAacEabIaaIacOaaOaeNWAaaAacEadPaaWAaaA
acEabIaaIacOaaOaeRaaAabEabIabOabWAAaeSHWAaaAacEabIaaIacOaaOaeWAaaAacEabIaaIacOaaOaeTHWAAaeWAaaA
acEabIaaIacOaaOaeWAaaAacEabIaaIacOaaOadYaaWAaaAacEabIaaIacOaaOakERN WaiIaaIacOaaO
aaDS-CREE FINAL THaiTHaaAabEabIabOabWAaaAacEEacIaaIacOaaOaqYaa-CREE COOadKOOadLOOadMOOadNOOadOO
acPOOacWAAaeSOOadTOOadWabYOOajAaaAaaIacYacEabIaaIacOaaOabYacWAaaAacEabIaaIacOaaOauCEL
aa CHARACTERajTAGaeLATION XajRadDLEacYacNED FOODaiOEadPITULUMagRICORNahR SLIDINGaiD FILE BOX
aiINDEXaa DIVIDERSaqE OFadTaa INSERTION POINTasIAN LETTER Aaa2acBabC-18ac39aeDaa2acEaa2acGaa2acI
aaIacKaa2acLaaDaa2adMaaBaa2ab3ab4adNaaDabGabNacOabPaa2acQabRaaRacSaaHaa2acSabTaa2adTaaTaa2adUaaU
aaUaa2ab3abUaeXamONabUSEL HORSEalP STREAMERajENTRY SAWakRIAGE RETURNalOTaeSTLEaeTaa FACE
aa WITH TEARS OF JOYamWRY SMILEavUCASIAN ALBANIAN CITATION MARKanLETTER ALTacORadBETadCARabYN
adHAaaTacIabOYadYAWabYaeDATacYANadZAYacYAYafEBabYNadFAMadGHEYSaeIMadHEYTaeINYAadRBacWNadJAYN
adHOXaeKARacIWadLANacYITaeMAQadNOWCaeONacPENacIWRaeQARabYadRATadSEYKadHAaaKacOYaeTASacIWRadYAY
aeVEYZaeXEYNaeYAYDadOWDaeZARLadHAabILbbTION SIGNalCHacEDI SIGNafLLAafLTIC CROSSakNT SIGN
afRE LINE SYMBOLamLINE LOW LINEaiOVERLINEarRESaeGJacHAINSacRacKMA AU MARKahDANDAaeIGIT EIGHT
afFIVEadOURaeNINEaeONEadSEVENaeIXadTHREEaeWOadZEROajOUBLE DANDAamLETTER AAacBAAacHAAaeCAAacHAA
aeDAAacDAAacHAAaeHAAaeEabGAAacHAAaeHAAadIabJAAacHAAaeKAAacHAAaeLAAacHAAaeMAAadNAAacGAAadNAAadYAA
aePAAacHAAaeRAAadSAAadTAAacHAAadTAAacHAAafUabVAAadWAAadYAAacYAAalMAAYYAAahO MARKagQUESTION MARK
anSECTION MARKalIGN ANUSVARAaiCANDRABINDUalVISARGAamVIRAMAafOWEL SIGN AaaAabIabUacEaaIacIaaIacO
aaIacUaaUarM CONSONANT SIGN FINAL HabMabNGaiLAacRAacWAacYAarDIGIT EIGHTafFIVEadOURaeNINEaeONE
adSEVENaeIXadTHREEaeWOadZEROakLETTER AaaIacBAabBAacHAadCHAabHAaeDAabDAacHAadEabFINAL CHacGabKabL
abNaaGacPabRabSSacTabYahGAabHAadHAacIabJAabHAadKAabHAadLAacMAabUEadNAabGAabUEadHAabJAacUEadUEadO
abPAabHAacPAadRAacSAabSAadTAabHAadUabVAacYAajPUNCTUATION DANDAaeOUBLE DANDAamSPIRAL
agTRIPLE DANDAayVOWEL SIGN AAabIabUacEIacIaaIacOaaEacUaaEapRACTER TABULATIONaa SET
adWITH JUSTIFICATIONbcIEajT WITH DOWNWARDS TRENDapUPWARDS TRENDaa AND YEN SIGNbjECK MARK
afER BOARDaa FILLapERING MEGAPHONEaoSE WEDGEajQUERED FLAGalROKEE LETTER AabDAabEabIabLAacOabUabV
acEabGAabEabIabOabUabVacHAabEabIabNAacOabUabVacIabKAacLAabEabIabOabUabVacMAabEabIabOabUabVacNA
aaHacEabIabOabUabVacOabQUAabEabIabOabUabVadSaaAabEabIabOabUabVacTAabEabIabLAabEabIabOabUabVacSA
abEabIabOabUabVadUabVabWAabEabIabOabUabVacYAabEabIabOabUabVajSMALL LETTER AabDAabEabIabLAacOabU
abVacEabGAabEabIabOabUabVacHAabEabIabNAacOabUabVacIabKAacLAabEabIabOabUabVacMAabEabIabOabUabV
acNAaaHacEabIabOabUabVacOabQUAabEabIabOabUabVadSaaAabEabIabOabUabVacTAabEabIabLAabEabIabOabUabV
acSAabEabIabOabUabVadUabVabWAabEabIabOabUabVacYAabEabIabOabUabVauRIESadY BLOSSOMalSTNUTagI RHO
aeCKENaeLDaaREN CROSSINGaoPMUNKafRONaeOCOLATE BARakPSTICKSahRASMIAN LETTER ALEPHaeYINaeBETH
aeCURLED WAWakDALETHagGIMELafHEaaTHaeKAPHaeLAMEDHagMEMadNUNadPEacRESHaeSAMEKHafHINadMALL ALEPH
alTAWadWAWadYODHaeZAYINamNUMBER FOURaeONEaa HUNDREDalTENacHREEaeWENTYaeOatRISTMAS TREEamURCH
afINEMAaeRCLE DIVIDED BY HORIZONTAL BAR AND TOP HALF DIVIDED BY VERTICAL BAR
ckWITH ALL BUT UPPER LEFT QUADRANT BLACKbhHORIZONTAL BARaoLEFT HALF BLACKaoOWER HALF BLACK
aqRIGHT HALF BLACKaqSMALL CIRCLE TO THE RIGHTayUPERIMPOSED X
aoTWO HORIZONTAL STROKES TO THE RIGHTbjUPPER HALF BLACKakRIGHT QUADRANT BLACKbaVERTICAL FILL
atD ANTICLOCKWISE ARROWag-ROTATED DIVISION SIGNbiSTERISK OPERATORarBOLD XafULLET
agC WITH OVERLAID BACKSLASHayCabDabROSS FORMEEaa WITH FOUR DOTSajTWO DOTSauPOMMEEahING LANES
aoDASHadIGIT EIGHTafFIVEadOURaeNINEaeONEadSEVENaeIXadTHREEaeWOadZEROaiVISION SIGNadLASH
anOLLAR SIGN WITH OVERLAID BACKSLASHbhT OPERATORamEQUALSagGREATER-THANamHANGUL CHIEUCHaa AaiIEUC
aa AahHIEUHaa AahIEUNGaa AabUahKHIEUKHaa AaiIYEOKaa AaiMIEUMaa AahNIEUNaa AahPHIEUPHaa AaiIEUP
aa AahRIEULaa AahSIOSaa AagTHIEUTHaa AaiIKEUTaa AaoEAVY WHITE RIGHTWARDS ARROW
bbORIZONTAL BAR WITH NOTCHayUMAN FIGUREamIDEOGRAPH ACCEPTafDVANTAGEaiLLIANCEahTTENTIONajCENTRE
afONGRATULATIONamPYacRRECTahEARTHaeIGHTaeNTERPRISEajXCELLENTajFEMALEafINANCIALahREacVEadOUR
aeHAVEadIGHaeITEMaeKINDERGARTENalOTOaeLABORaeEFTadOWadMALEadEDICINEagTALaeOONaeNAMEadIGHTadNE
aeONEadPRINTafQUESTIONaiRELIGIONagSOURCEafTadIGHTafSCHOOLafECRETaeVENaeIXacOCIETYagPECIALagTOCK
adUDYaeUITABLEagNabPERVISEajTENacHREEaeWOadWATERaeOODanNFORMATION SOURCE
arTALIC LATIN CAPITAL LETTER CabRbdKATAKANA AabEabHAabEabIabOabUacIabKAabEabIabOabUacMAabEabIabO
abUacNAabEabIabOabUacOabRAabEabIabOabUacSAabEabIabOabUacTAabEabIabOabUacUabWAabEabIabOacYAabOabU
akOREAN CHARACTER CHAMKOagJUEUIawLATIN CAPITAL LETTER AabBabCabDabEabFabGabHabIabJabKabLabMabN
abOabPabQabRabSabTabUabVabWabXabYabZaqSMALL LETTER AabBabCabDabEabFabGabHabIabJabKabLabMabNabO
abPabQabRabSabTabUabVabWabXabYabZatESS-THANajMINUSaeULTIPLICATION SIGN WITH CIRCUMFLEX ACCENT
bqNUMBER EIGHTEENadY ON BLACK SQUAREavLEVENagFIFTEENadYaa ON BLACK SQUAREauORTYaa EIGHTafFIVE
adOURaeNINEaeON BLACK SQUAREanEadSEVENaeIXadTHREEaeWOahURTEENaiNINETEENaiSEVENTEEN
adY ON BLACK SQUAREawIXTEENadY ON BLACK SQUAREavTENaa ON BLACK SQUAREasHIRTEENadYaa EIGHTafFIVE
adOURaeNINEaeON BLACK SQUAREanEadSEVENaeIXadTHREEaeWOajWELVEadNTYaa EIGHTafFIVEadOURaeNINE
aeON BLACK SQUAREanEadSEVENaeIXadTHREEaeWOarOPEN CENTRE EIGHT POINTED STARbePARALLEL
ahERPENDICULARamLUSadOSTAL MARKalREVERSE SOLIDUSaoING OPERATORanSQUAREagTIMESaeRIANGLEaa DOWN
anVERTICAL BARamWHITE BULLETagSTARajZacXabZERO WITH SLASHatULATION FUNCTIONapMFLEX ACCENT
amS TENTajTYSCAPEaa AT DUSKaqJK COMPATIBILITY IDEOGRAPH-2F800ab1ab2ab3ab4ab5ab6ab7ab8ab9abAabB
abCabDabEabFac10ab1ab2ab3ab4ab5ab6ab7ab8ab9abAabBabCabDabEabFac20ab1ab2ab3ab4ab5ab6ab7ab8ab9abA
abBabCabDabEabFac30ab1ab2ab3ab4ab5ab6ab7ab8ab9abAabBabCabDabEabFac40ab1ab2ab3ab4ab5ab6ab7ab8ab9
abAabBabCabDabEabFac50ab1ab2ab3ab4ab5ab6ab7ab8ab9abAabBabCabDabEabFac60ab1ab2ab3ab4ab5ab6ab7ab8
ab9abAabBabCabDabEabFac70ab1ab2ab3ab4ab5ab6ab7ab8ab9abAabBabCabDabEabFac80ab1ab2ab3ab4ab5ab6ab7
ab8ab9abAabBabCabDabEabFac90ab1ab2ab3ab4ab5ab6ab7ab8ab9abAabBabCabDabEabFacA0ab1ab2ab3ab4ab5ab6
ab7ab8ab9abAabBabCabDabEabFacB0ab1ab2ab3ab4ab5ab6ab7ab8ab9abAabBabCabDabEabFacC0ab1ab2ab3ab4ab5
ab6ab7ab8ab9abAabBabCabDabEabFacD0ab1ab2ab3ab4ab5ab6ab7ab8ab9abAabBabCabDabEabFacE0ab1ab2ab3ab4
ab5ab6ab7ab8ab9abAabBabCabDabEabFacF0ab1ab2ab3ab4ab5ab6ab7ab8ab9abAabBabCabDabEabFad900ab1ab2ab3
ab4ab5ab6ab7ab8ab9abAabBabCabDabEabFac10ab1ab2ab3ab4ab5ab6ab7ab8ab9abAabBabCabDabEabFac20ab1ab2
ab3ab4ab5ab6ab7ab8ab9abAabBabCabDabEabFac30ab1ab2ab3ab4ab5ab6ab7ab8ab9abAabBabCabDabEabFac40ab1
ab2ab3ab4ab5ab6ab7ab8ab9abAabBabCabDabEabFac50ab1ab2ab3ab4ab5ab6ab7ab8ab9abAabBabCabDabEabFac60
ab1ab2ab3ab4ab5ab6ab7ab8ab9abAabBabCabDabEabFac70ab1ab2ab3ab4ab5ab6ab7ab8ab9abAabBabCabDabEabF
ac80ab1ab2ab3ab4ab5ab6ab7ab8ab9abAabBabCabDabEabFac90ab1ab2ab3ab4ab5ab6ab7ab8ab9abAabBabCabDabE
abFacA0ab1ab2ab3ab4ab5ab6ab7ab8ab9abAabBabCabDabEabFacB0ab1ab2ab3ab4ab5ab6ab7ab8ab9abAabBabCabD
abEabFacC0ab1ab2ab3ab4ab5ab6ab7ab8ab9abAabBabCabDabEabFacD0ab1ab2ab3ab4ab5ab6ab7ab8ab9abAabBabC
abDabEabFacE0ab1ab2ab3ab4ab5ab6ab7ab8ab9abAabBabCabDabEabFacF0ab1ab2ab3ab4ab5ab6ab7ab8ab9abAabB
abCabDabEabFadA00ab1ab2ab3ab4ab5ab6ab7ab8ab9abAabBabCabDabEabFac10ab1ab2ab3ab4ab5ab6ab7ab8ab9abA
abBabCabDafF900ab1ab2ab3ab4ab5ab6ab7ab8ab9abAabBabCabDabEabFac10ab1ab2ab3ab4ab5ab6ab7ab8ab9abA
abBabCabDabEabFac20ab1ab2ab3ab4ab5ab6ab7ab8ab9abAabBabCabDabEabFac30ab1ab2ab3ab4ab5ab6ab7ab8ab9
abAabBabCabDabEabFac40ab1ab2ab3ab4ab5ab6ab7ab8ab9abAabBabCabDabEabFac50ab1ab2ab3ab4ab5ab6ab7ab8
ab9abAabBabCabDabEabFac60ab1ab2ab3ab4ab5ab6ab7ab8ab9abAabBabCabDabEabFac70ab1ab2ab3ab4ab5ab6ab7
ab8ab9abAabBabCabDabEabFac80ab1ab2ab3ab4ab5ab6ab7ab8ab9abAabBabCabDabEabFac90ab1ab2ab3ab4ab5ab6
ab7ab8ab9abAabBabCabDabEabFacA0ab1ab2ab3ab4ab5ab6ab7ab8ab9abAabBabCabDabEabFacB0ab1ab2ab3ab4ab5
ab6ab7ab8ab9abAabBabCabDabEabFacC0ab1ab2ab3ab4ab5ab6ab7ab8ab9abAabBabCabDabEabFacD0ab1ab2ab3ab4
ab5ab6ab7ab8ab9abAabBabCabDabEabFacE0ab1ab2ab3ab4ab5ab6ab7ab8ab9abAabBabCabDabEabFacF0ab1ab2ab3
ab4ab5ab6ab7ab8ab9abAabBabCabDabEabFadA00ab1ab2ab3ab4ab5ab6ab7ab8ab9abAabBabCabDabEabFac10ab1ab2
ab3ab4ab5ab6ab7ab8ab9abAabBabCabDabEabFac20ab1ab2ab3ab4ab5ab6ab7ab8ab9abAabBabCabDabEabFac30ab1
ab2ab3ab4ab5ab6ab7ab8ab9abAabBabCabDabEabFac40ab1ab2ab3ab4ab5ab6ab7ab8ab9abAabBabCabDabEabFac50
ab1ab2ab3ab4ab5ab6ab7ab8ab9abAabBabCabDabEabFac60ab1ab2ab3ab4ab5ab6ab7ab8ab9abAabBabCabDac70ab1
ab2ab3ab4ab5ab6ab7ab8ab9abAabBabCabDabEabFac80ab1ab2ab3ab4ab5ab6ab7ab8ab9abAabBabCabDabEabFac90
ab1ab2ab3ab4ab5ab6ab7ab8ab9abAabBabCabDabEabFacA0ab1ab2ab3ab4ab5ab6ab7ab8ab9abAabBabCabDabEabF
acB0ab1ab2ab3ab4ab5ab6ab7ab8ab9abAabBabCabDabEabFacC0ab1ab2ab3ab4ab5ab6ab7ab8ab9abAabBabCabDabE
abFacD0ab1ab2ab3ab4ab5ab6ab7ab8ab9bcRADICAL BAMBOOafLUEadOLT OF CLOTHalNEacXacRUSH ONEadTWO
ajC-SIMPLIFIED BIRDaeCARTaeDRAGONagEATacVENaeFISHadLYacROGaeGATEadOLDaeHORSEafLEAFadONGaeSALT
adEEacHELLaeILKadPEECHagTANNED LEATHERanOOTHaeURTLEagWINDaqHOKEaeITYacVILIANahLIFFadOTHESagOW
adDEATHaeIVINATIONajOGadEAT ONEadTHREEaeWOagWEacYEadFIREadOOTaeGHOSTaeRASS ONEadTHREEaeWOajHAND
adEADabRT ONEadTWOaiORNaeJ-SIMPLIFIED DRAGONagEVENaeTOOTHaeURTLEasADEaeKNIFE ONEadTWOajLAME FOUR
aeONEadTHREEaeWOahONG ONEadTWOaiMEATacSHadOONacRTARaeTHERaeUND ONEadTWOajNET FOURaeONEadTHREE
aeWOahOLDadPAW ONEadTWOagERSONagRAINacMabPacEPEATagSEALacCOND ONEadTHREEaeWOajHEEPaeILK
acMPLIFIED HALF TREE TRUNKaoORNaeWALKadHEATafYELLOWaqMALL ONEadTWOaiNAKEadOUT ONEadTWO
aiPIRIT ONEadTWOajUNadTABLEaeHREADafIGERaeURTLEagWALK ONEadTWOagTER ONEadTWOaiEST ONEadTWO
aqSTROKE BXGadDabHaaGabPaaWGadXWGadZaaGabTabWaaGacZaaPabZaaGafNabPaaDabGabZacQabSaaGabPabTabWaaG
abZacZaaWGacZadTaaNacWGacXGamLAMSHELL MOBILE PHONEatPPER BOARDaiING HANDS SIGNaqSSICAL BUILDING
aqEAR SCREEN SYMBOLarINKING BEER MUGSajGLASSESanPBOARDahOCK FACE EIGHT OCLOCKah-THIRTY
alLEVEN OCLOCKah-THIRTYanFIVE OCLOCKah-THIRTYakOUR OCLOCKah-THIRTYalNINE OCLOCKah-THIRTY
alONE OCLOCKah-THIRTYakSEVEN OCLOCKah-THIRTYalIX OCLOCKah-THIRTYakTEN OCLOCKah-THIRTY
ajHREE OCLOCKah-THIRTYalWELVE OCLOCKah-THIRTYalO OCLOCKah-THIRTYaqWISE CLOSED CIRCLE ARROW
asONTOUR INTEGRALaqDOWNWARDS AND UPWARDS OPEN CIRCLE ARROWSboGAPPED CIRCLE ARROWatINTEGRAL
aiOPEN CIRCLE ARROWarRIGHT AND LEFT SEMICIRCLE ARROWSbbWARDS AND LEFTWARDS OPEN CIRCLE ARROWS
aa WITH CIRCLED ONE OVERLAYcqTOP SEMICIRCLE ARROWatRIANGLE-HEADED OPEN CIRCLE ARROWboSE UP
adD BOOKaeINTERSECTION WITH SERIFSayLOCK WITH KEYanMAILBOX WITH LOWERED FLAGamRAISED FLAG
aySUBSETaa OR EQUAL TOaqPERSETaa OR EQUAL TOauUMBRELLAahNION WITH SERIFSaa AND SMASH PRODUCTbnUD
aa WITH LIGHTNINGajRAINaeSNOWaeTORNADOapWN FACEajOATacCKROACHafTAIL GLASSalONUTafFFINaeIN
acLLISION SYMBOLanONaa EQUALSagSIGNaiMBINING ACUTE ACCENTaa BELOWamTONE MARKak-GRAVE-ACUTE
alMACRONalLMOST EQUAL TO ABOVEafBELOWauNNUITY SYMBOLamTICLOCKWISE ARROW ABOVEalRING OVERLAY
azSTERISK ABOVEafBELOWaoBINDU BELOWakREVEaa BELOWag-MACRONakIDGE ABOVEafBELOWamCANDRABINDUajRON
aa BELOWakEDILLAagIRCUMFLEX ACCENTaa BELOWawLOCKWISE ARROW ABOVEalRING OVERLAYavOMMA ABOVE
aa RIGHTalBELOWajNJOINING MACRONaa BELOWawYRILLIC DASIA PNEUMATAaoHUNDRED MILLIONS SIGN
anTHOUSANDS SIGNawKAVYKAagLETTER AabBEabIG YUSahCHEadDEabJERVafEFabLabMabNabRabSaa-TEafFITAaeGHE
adHAaaRD SIGNajIaaEabOTIFIED AabBIG YUSahEakKAacLITTLE YUSakMONOGRAPH UKamOaaMEGAafPEacSHAabCHA
aeOFT SIGNajTEabSEadUaaKRAINIAN IEamVEacYATacERUadIabUacZEabHEakMILLIONS SIGNanPALATALIZATION
amYEROKagOKRYTIEahSILI PNEUMATAaoTEN MILLIONS SIGNaqHOUSAND MILLIONS SIGNavITLOaa LEFT HALF
ajRIGHT HALFaqVZMETaoDELETION MARKalVANAGARI DIGIT EIGHTafFIVEadOURaeNINEaeONEadSEVENaeIXadTHREE
aeWOadZEROakLETTER AabKAacNAacPAacRAacUabVIajSIGN AVAGRAHAaxIAERESISaa BELOWag-RINGanOT ABOVE
aa LEFTaeRIGHTalBELOWaa LEFTalTED ACUTE ACCENTamGRAVE ACCENTarUBLE ACUTE ACCENTamBREVEaa BELOW
alCIRCUMFLEX ABOVEaqGRAVE ACCENTamINVERTED BREVEaa BELOWauLOW LINEaiMACRONaa BELOW
amOPEN MARK BELOWaoVERLINEaiPARENTHESES ABOVEaqLUS SIGN ABOVEafBELOWapRIGHTWARDS ARROW BELOW
auNG BELOWakTILDEaa LEFT HALFajRIGHT HALFaqVERTICAL LINE ABOVEafBELOWakSTROKE OVERLAY
ayD CIRCUMFLEX ACCENTaxWN TACK BELOWalWARDS ARROWapENCLOSING CIRCLEaa BACKSLASHaqDIAMONDahKEYCAP
agSCREENafQUAREagUPWARD POINTING TRIANGLEbhQUALS SIGN BELOWarFERMATAagOUR DOTS ABOVE
apGLAGOLITIC LETTER AZUadBIG YUSagUKYaeCHRIVIagDJERVIafOBROafFITAadRITUafGLAGOLIahHERUaeI
aaNITIAL IZHEalOTATED BIG YUSahSMALL YUSaqZHEaeKAKOaeLJUDIJEahMYSLITEahNASHIafONUadPOKOJIagRITSI
afSHAabTAadLOVOaeMALL YUSajTSIacVRIDOagUKUadVEDEaeYATIadERIabUacSTUaeOabUacZEMLJAafHIVETE
ayRANTHA DIGIT FIVEadOURaeONEadSIXadTHREEaeWOadZEROakLETTER AabKAacNAacPAacVIaoPHEME JOINER
amVE ACCENTaa BELOWamTONE MARKak-ACUTE-GRAVEalMACRONakEEK DIALYTIKA TONOSapKORONIS
ahMUSICAL PENTASEMEajTETRASEMEaiRISEMEapPERISPOMENIalYPOGEGRAMMENIatHOMOTHETIC ABOVEaoOK ABOVE
aiRNaeINFINITYagVERTED BREVEaa BELOWajIDGE BELOWamDOUBLE ARCH ABOVEafBELOWazS BELOW
aiKATAKANA-HIRAGANA SEMI-VOICED SOUND MARKawVOICED SOUND MARKbhVYKA ABOVE LEFTaeRIGHT
asLATIN LETTER SMALL CAPITAL GabLabMabNabRawSMALL LETTER Aaa WITH DIAERESISapEabLPHAaeOabVacB
aaETAaeCaa CEDILLAajDabEaaSHacTHadFaaLATTENED OPEN A ABOVEawGabHabIaaNSULAR DabGabRabTajKabL
aa WITH DOUBLE MIDDLE TILDEazONG SagMabNabOaa WITH DIAERESISajLIGHT CENTRALIZATION STROKEbiPabR
aa BELOWafROTUNDAajSaaCHWAafTaaURNED W BELOWaoUaa WITH DIAERESISajLIGHT CENTRALIZATION STROKEbiV
abWaa BELOWahXabZatEFT ANGLE ABOVEafBELOWakRROW ABOVEafBELOWagHEAD ABOVEafBELOWapHALF RING ABOVE
afBELOWanRPOON ABOVEanPARENTHESIS ABOVE LEFTakBELOW LEFTawRIGHT ARROW ABOVEafBELOWarTACK BELOW
alWARDS ARROW OVERLAYanHARPOON WITH BARB DOWNWARDSbkIGATURE LEFT HALFaa BELOWapRIGHT HALF
aa BELOWawHT CENTRALIZATION STROKE BELOWbgONG DOUBLE SOLIDUS OVERLAYawSOLIDUS OVERLAY
aoTROKE OVERLAYaoVERTICAL LINE OVERLAYayW LINEaiMACRONaa BELOWafLEFT HALFaa BELOWapRIGHT HALF
aa BELOWar-ACUTEafBREVEafGRAVEalINUS SIGN BELOWaqNOT TILDE ABOVEaoUMBER SIGN ABOVEarOGONEK
aa ABOVEalLD PERMIC LETTER ANacDOIadNENOEafSIIadZATAavPEN MARK BELOWaoVERLINE
aiPALATALIZED HOOK BELOWauRENTHESES ABOVEafBELOWafOVERLAYasLUS SIGN ABOVEafBELOW
apRETROFLEX HOOK BELOWasVERSE SOLIDUS OVERLAYaqD COMMA ABOVEatIGHT ARROW ABOVEafBELOW
agHEAD ABOVEaeND DOWN ARROWHEAD BELOWauUP ARROWHEAD BELOWawBELOWapHALF RING ABOVEafBELOW
anRPOON ABOVEanPARENTHESIS ABOVE RIGHTalBELOW RIGHTaxTACK BELOW
alWARDS HARPOON WITH BARB DOWNWARDSbkNG ABOVEafBELOWafOVERLAYamSEAGULL BELOW
amHORT SOLIDUS OVERLAYaoTROKE OVERLAYaoVERTICAL LINE OVERLAYbaNAKE BELOWakQUARE BELOW
aeRACKETS ABOVEauTRONG CENTRALIZATION STROKE BELOWbhUSPENSION MARKapTHREE DOTS ABOVEapILDE
aa BELOWafLEFT HALF BELOWapOVERLAYahRIGHT HALF BELOWavRIPLE ACUTE ACCENTamDOTadUNDERDOT
aoURNED COMMA ABOVEasUP TACK ABOVEafBELOWalWARDS ARROW BELOWasR ABOVEahS ABOVE
aiVERTICAL LINE ABOVEafBELOWakTILDEaoWIDE BRIDGE ABOVEamINVERTED BRIDGE BELOWayGGLY LINE BELOW
arX ABOVEafBELOWag-X BELOWajZIGZAG ABOVEafBELOWatETacMAabERCIAL ATacMINUS SIGNasPASSadLEMENT
agOSITION SYMBOLaoRESSIONajNFETTI BALLajOUNDED FACEalUSED FACEakGRUENT WITH DOT ABOVE
avICAL TAPERakJUNCTIONaiSTRUCTION SIGNaeWORKERaqTAINS AS MEMBERagNORMAL SUBGROUPaa OR EQUAL TO
beWITH LONG HORIZONTAL STROKEawOVERBARahVERTICAL BAR AT END OF HORIZONTAL STROKE
byINUOUS UNDERLINE SYMBOLaxOUR INTEGRALamROL KNOBSafSEQUENCE INTRODUCERayVENIENCE STORE
apOKED RICEahIEabNGafPTIC CAPITAL LETTER AKHMIMIC KHEIamLFAaeBOHAIRIC KHEIanCROSSED SHEI
akYPTOGRAMMIC EIEadGANGIAagNIacSHEIasDALDAaeEIacIALECT-P ALEFaeHORIaeKAPAaeNIamEIEadFEIacI
acGAMMAadNGIAagHATEadORIaeIAUDAafKAPAadHEIacIacSIadL-SHAPED HAakAULAafMIacNIacOaaLD COPTIC AIN
adDJAadESHadGANGIAagHAaaTacEIacORIaeOOUadSHEIacIMAamNUBIAN NGIacYIadSHIMAafWAUanOUadPIabSIadRO
acSAMPIaeHEIacIMAaeIMAadOUadTAUacHETHEagUAacVIDAaeZATAasOMBINING NI ABOVEaiSPIRITUS ASPERafLENIS
ayEPACT DIGIT EIGHTafFIVEadOURaeNINEaeONEadSEVENaeIXadTHREEaeWOajNUMBER EIGHT HUNDREDaiYagFIFTY
adVE HUNDREDalORTYadUR HUNDREDamNINE HUNDREDaiTYagONE HUNDREDalSEVEN HUNDREDaiTYagIX HUNDREDaiTY
afTENacHIRTYaeREE HUNDREDamWENTYaeO HUNDREDasTHOUSANDS MARKauFRACTION ONE HALFaqULL STOP
ajMORPHOLOGICAL DIVIDERavOLD NUBIAN DIRECT QUESTION MARKauFULL STOPajINDIRECT QUESTION MARK
awVERSE DIVIDERaySMALL LETTER AKHMIMIC KHEIamLFAaeBOHAIRIC KHEIanCROSSED SHEIakYPTOGRAMMIC EIE
adGANGIAagNIacSHEIasDALDAaeEIacIALECT-P ALEFaeHORIaeKAPAaeNIamEIEadFEIacIacGAMMAadNGIAagHATE
adORIaeIAUDAafKAPAadHEIacIacSIadL-SHAPED HAakAULAafMIacNIacOaaLD COPTIC AINadDJAadESHadGANGIA
agHAaaTacEIacORIaeOOUadSHEIacIMAamNUBIAN NGIacYIadSHIMAafWAUanOUadPIabSIadROacSAMPIaeHEIacIMA
aeIMAadOUadTAUacHETHEagUAacVIDAaeZATAaqYMBOL KAIacHI ROagMI ROafPI ROafSHIMA SIMAajTAUROS
ahTAU ROarYLEFT SYMBOLalRIGHT SIGNamRALacNISH VERSE DIVIDERasRESPONDS TOamUCH AND LAMPalNTERBORE
aeSINKagING ROD TENS DIGIT EIGHTafFIVEadOURaeNINEaeONEadSEVENaeIXadTHREEaeWOaoUNIT DIGIT EIGHT
afFIVEadOURaeNINEaeONEadSEVENaeIXadTHREEaeWOayPLE WITH HEARTapWaa FACEahRaaABacEDIT CARD
aiSCENT MOONalICKETaa BAT AND BALLasOCODILEagISSANTagSS MARKaeOF JERUSALEMajLORRAINE
alPATTY WITH LEFT CROSSBARanRIGHT CROSSBARayOMMEEaa WITH HALF-CIRCLE BELOWbeED FLAGS
afNEGATIVE SQUARED LATIN CAPITAL LETTER PbnSWORDSajING LANESalWNadUTCHadZEIRO SIGN
alYING CAT FACEaiFACEaiSTAL BALLalSIacUBE ROOTahCUMBERagNEIFORM NUMERIC SIGN EIGHT ASHadDISH
aeGESH2afSHAR2afUaa VARIANT FORMaoVARIANT FORM USSUaa3axLAMITE FIFTYaeORTYafONE THIRD
ajTWO THIRDSasFIVE ASHaa TENUaiBAN2aa VARIANT FORMaqURUaeDISHaeGESH2abUafSHAR2abUaeIXTHS DISHalU
aa VARIANT FORMasOUR ASHaa TENUaiBAN2aa VARIANT FORMaqURUaeDISHaeGESH2abUafSHAR2abUafU
aa VARIANT FORMaoVARIANT FORM LIMMUaa AabBac4ayNIGIDAESHadMINahNE ASHadDISHaeGESH2afSHAR2afU
aa VARIANT FORMaoVARIANT FORM ILIMMUaa Aac3ab4azOLD ASSYRIAN ONE QUARTERahSIXTHavNE BAN2adURU
aeEIGHTH ASHajSHE3afGESH2abUafHALF GURaiQUARTER ASHadGURalSHARUafTHIRD DISHaeVARIANT FORM A
aySEVEN ASHadDISHaeGESH2afSHAR2afUaa VARIANT FORMaoVARIANT FORM IMIN AabBac3
axHAR2 TIMES GAL PLUS DISHaeMINaxIX ASHaa TENUaiDISHaeGESH2afSHAR2afUaa VARIANT FORM
aoVARIANT FORM ASH9avTHREE ASHaa TENUaiBAN2adURUaa VARIANT FORMarDISHaeGESH2abUafSHAR2
aa VARIANT FORMaoUaa VARIANT FORMasVARIANT FORM ESH16ac21axWO ASHaa TENUaiBAN2adURUaeESHE3
afGESH2abUafSHAR2abUafTHIRDS DISHaeVARIANT FORM AbmPUNCTUATION SIGN DIAGONAL COLONafQUADCOLON
ajTRICOLONarOLD ASSYRIAN WORD DIVIDERazVERTICAL COLONbfSIGN Aaa TIMES AabBADadGAN2 TENUajHAacIGI
adLAGAR GUNUakMUSHaeSAGak2abBaa GUNUaeTIMES ASH2aeDUN3 GUNUajGALabN2 TENUajHAacIGI GUNUahMIN
aeLAGABafNUNaa TENUaiSHESHadU2aeU PLUS U PLUS Uaw2aa TIMES AabBALAGafGAN2 TENUajME PLUS ENakSHA3
aeTAK4anDaa TIMES ESH2amKaa TIMES ERIN2afSHITA PLUS GISHaxLaa TIMES ALacDIM2aeGISHaeHAacKAD3adI
acSHEadUSHakANacEPHaeMARaa TIMES KUGadSHEanNaa OVER ANahPLUS NAGA OPPOSING AN PLUS NAGAavSQUARED
arTHREE TIMESamSHEaePINadRADaa TIMES KURamKABaeSAL2adHaa KABA TENUajOVER ASH OVER ASH
aa CROSSING ASH OVER ASH OVER ASHbnTUG2 OVER TUG2 TUG2 OVER TUG2 PAPbqZIDA TENUak2abGABagBAaaD
aa TIMES DISH TENUarG3acHAR2aa TIMES AB2adNIacZAanLaa OVER BALajAGadRaaA2aeIaa TIMES AabGAR
adIGI GUNUaqUaa CROSSING BUalOVER BU ABacTIMES NA2ajUNalLUGaa OVER BULUGaoRaa2aeDAaa TIMES TAK4
alGaa KISIM5 TIMES A PLUS MASHakMARaeBALAGaeIacGAaa PLUS MASHalIaaR2adUDadHAacIRaa PLUS LUakKAK
adLAabUaa PLUS MASH2alMadNEacPAP PLUS PAPamSIacTAK4aeU2 PLUS GIR2aeMASHalSHaqTIMES KURak3acMabR
aaA3ab4aeIaaBabMaa TIMES IGIadSHEadU U Uam2aa TIMES UDalNaa KASKAL U GUNU DISHauSHaa PLUS SHUamU
aa GUNUaeOVER DUahSHESHIGaiBaa TIMES ESH2aeSHEak2acGaa TIMES ANSHEaeSHaa AT LEFTalDINacUNadERIN2
afGAabIaaR2 GUNUahSHaeHAabIacIGI GUNUaiKASKALafURabSHU2aa PLUS KASKALasLAK-020afMaa TIMES KUR
amUH PLUS GISHanMASHadESacIacNIacPIacSHEacI GUNUaoUDadHabNaa3aa GUNUaa GUNUal4acR2aeE
aa OVER E NUN OVER NUNatTIMES PAPak2aa TIMES A PLUS HA PLUS DAarGARadKURadMIacPAPadSALacHEadU
ajDINadGIRadLabNaa CROSSING ENalOPPOSING ENalSQUAREDahTIMES GAN2aa TENUajMEakRENacIN2aa XagSH2
aa CROSSING ESH2arZENaa SHESHIG TIMES ASHadHIacIGI GUNUaiLAaaLadMEaaSadSUaqTIMES Aaa PLUS LAL
aa TIMES LALatNacBADadDUN3 GUNUaa GUNUaoGUDadHAaa GUNUahIGI GUNUaiKASKALaa SQUAREDanU3adLA
aaL TIMES LALamIabUacSHEacUacU2abDanGAaa GUNUaf2aa OVER GA2aiTIMES A PLUS DA PLUS HAakHAacIGI
ajB2 TENU PLUS TABaqNaa PLUS KAK PLUS AarSHaa2aa PLUS GALanBADabHAR2aeR PLUS RAakURaa PLUS RA
alDAabIaaM GUNUaeTIMES SHEamUBabG TIMES IGI GUNUaiKASKALaqELaa PLUS LAajNaa TIMES GAN2 TENUarREN
aeGAaaN2 TENUahRaa PLUS DIacNEakIaa4aa PLUS AaiR2 PLUS SUamHA PLUS AabLU PLUS ESH2asLaa PLUS LA
akI PLUS LIajUB2aeIGI GUNUahSH PLUS HU PLUS ASHauKAKabSKALafIDaa PLUS LALalU3 PLUS AN
ajSHU2 PLUS KASKALasLAaaMaa TIMES KURamUHadME PLUS ENajIabUSHaeNEaa PLUS E2acGIajUNaa OVER NUN
amPAacSALabRacHEaa PLUS TURakIDabMadUMadTAK4aeUaaDaa PLUS DUakZIZ2amBAaa CROSSING GABA
anROTATED NINETY DEGREESazDaa OVER GAD GAR OVER GARaxLaa GAD OVER GAD GAR OVER GARbaAMadMabNaa2
aa CROSSING GAN2anOVER GAN2ajTENUahRaa3acSHANafE22acSHTINaa TIMES KURadUaoIaa CROSSING GI
alTIMES EabUai4aa CROSSING GI4amOVER GI4akDIMadGabR2aa GUNUag3aa TIMES A PLUS IGIakGAN2 TENU
ajIGIadLU PLUS IGIalPAalSALacHaa CROSSING GISHanTENUadIMES BADadGISH CROSSING GISHasTAK4aoU
aa CROSSING GUam2aa GUNUaeTIMES IGI GUNUaiKAKaa TIMES IGI GUNUasNUNadSAL PLUS TUG2avD
aa OVER GUD LUGALaoPLUS GISH TIMES TAK4auTIMES A PLUS KURakKURalLabMaa TIMES SHEalRaa7abUNabSH
agHAaa GUNUaeTENUaa GUNUakLacIaa TIMES ASHaa OVER HI TIMES ASHas2aeBADadDISHaeGADadKINadNUNadSHE
adUajUaaB2aa TIMES ANacHALadKASKALagLISHaeUDalL2acSHaeIaa AacBabDIMaa OVER IDIM BURadSQUAREDavG
aaIaa DIBadGUNUaeOVER IGI SHIR OVER SHIR UD OVER UDbiRIafLaa TIMES GAN2 TENUaq2acMaa CROSSING IM
alOPPOSING IMalSQUAREDahTIMES TAK4alINadNabRabSHadKAaa TIMES AaaDaa PLUS KU3akNSHEaeSH2ab3aeBAD
abLAGadRacIabUacERIN2aeSH2aeGAaaLabN2 TENUahRaa PLUS SHA3 PLUS AatIaaR2acSHaa CROSSING GISH
anPLUS SARamUaaDabR7aeHI TIMES ASH2anIGIacMacKAaaKacIaaDadLIabUaaMadMEaa PLUS DUacGIacTEajI
aa PLUS NUNUZanNEabUNadPAabIacRUacSAaaRacHAabEabIDacUaaLadIGacUHURafTARacUacUaa U Uae2abD
abMUM TIMES PAamRaa2acSHadZIaj2aa CROSSING KA2aoBabD2ab3ab4ab5aa OVER KAD5amKaa TIMES IGI GUNU
aqLaa CROSSING KALamTIMES BADalM2ab4acP ELAMITEajSKALaa LAGAB TIMES U OVER LAGAB TIMES U
bgOVER KASKAL LAGAB TIMES U OVER LAGAB TIMES UbyESH2aeIaa TIMES BADadUaaDajDabNabSALacHabIM5
aa OVER KISIM5arUaa OVER HI TIMES ASH2 KU OVER HI TIMES ASH2bp3ab4aa VARIANT FORMao7abLaa GUNU
agNabRaa OPPOSING KURaoSHU2afWU318agLAaaGABaa SQUAREDahTIMES Aaa PLUS DA PLUS HAakGARadLALajLabN
abSH ZIDA TENUanBADacIacDARadENacGAaaRacIabUDaa PLUS GUDamHAaaLacI TIMES NUNamIGI GUNUahM
aa PLUS HAacLUakKIaaNacU3abLaa PLUS HI PLUS AasLAGABaeISHadUaaLadMEaa PLUS ENajUSHaeNE
acSHE PLUS SUMakITA PLUS GISH PLUS ERIN2akTENUasU2aa PLUS SHU2anUMadTAGabK4
adE PLUS A PLUS SU PLUS NAazUaa PLUS AabU PLUS Uao2 PLUS ASHakDabSHadZU OVER ZUasRaa GUNU
aa OVER LAGAR GUNU SHEayTIMES SHEaa PLUS SUMawHSHUaeK-003ac21ab5ac30ac50ab1ac62
ac79 OVER LAK-079 GUNUau80ab1 OVER LAK-081ap92ad130ac42ad210ab9ac20ab5ab8ac38ac65ab6ad343ab7ab8
ac83ab4ac90ad441ab9aa TIMES GUacIGIadPAP PLUS LU3adPAP PLUS LU3avU2 PLUS BAat50ab7ac70ac83ac90
ab2ab3ab5ad550ad608ac17aa TIMES ASHadBADadDUN3 GUNU GUNUaoKU3adLAacTARacEacU2abDabRUDAao36ac48
aa TIMES DUBadGAacIGIaa GUNUaiNIacPAP PLUS PAP PLUS LU3avSHESH PLUS KIanUDabRUDAap724ac49afL
aa TIMES LALalMaa TIMES KURaa PLUS RUauIaaLabMMU2aeSHadUaa TIMES BADak2aa CROSSING LU2
amGUNU TIMES ASHaoOPPOSING LU2amSHESHIGaa TIMES BADaqQUAREDahTENUadIMES ALacBADadDISHaeESH2
aa PLUS LALaiTENUajGAN2 TENUajHALacI TIMES BADamIMacKAD2ab3aa PLUS ASHamIacLA PLUS ASHajGAB
afME PLUS ENakNEabUacPAPaa PLUS PAP PLUS LU3avSHUacI PLUS ASHajK2 PLUS BUamTAK4adUG2am3abGAL
aa OPPOSING LUGALanVER LUGALakSHESHIGalHabLabMaa OVER LUMaa GAR OVER GARazMAaa GUNUaeTIMES TAK4
al2abHabRabSHaa2aeEaaSaaHadIaa PLUS ZA7ajNacUaa OVER MUaiGaa GUNUagNSUBaeRGU2aeSH
aa CROSSING MUSHanOVER MUSHaa TIMES A PLUS NAajGAacKAKatTIMES AabKURadZAaj3aa GUNUaeTIMES A
aa PLUS DIajDIacZAaoNAaa2ab4abGAaa INVERTEDaiOPPOSING NAGAanTIMES SHU TENUapRadMaa NUTILLUai2adE
aa SHESHIGahTIMES AabUDakIaa TIMES Eai2abMaa TIMES GAN2 TENUahR PLUS GAN2 TENUbaNaa9abDA2
aa TIMES ANabSHaa PLUS ASHamBALadDIM GUNUaiGIaaSHadUDabLadHIacKESH2afLAK-050ahMASH
adE PLUS GAN2 TENUarNEabUNadPAP PLUS PAPamSHEaa PLUS A ANadSHaa PLUS ASHavUaa PLUS Uah2 PLUS ASH
akRUDAaeSHaoSAGaeUaa11aa OVER NU11 BUR OVER BURawROTATED NINETY DEGREESawTENUahNaa CROSSING NUN
aa LAGAR OVER LAGARbdLAGAR TIMES GARadMASHaeSALaa OVER NUN LAGAR TIMES SALbcUSHapOVER NUNaiTENU
afUZaa AB2 TIMES ASHGABagBIacDUGadGUDadIGI GUNUaiKAD3aeLAacNEacSILA3afU2amKISIM5 TIMES BIaa U
axPAaaDabNabPacESH2aa ASTERISKanIaa CROSSING PIalTIMES AaaBacBIabUacEabIaaBacUaa2ajR2abIG
aa OPPOSING PIRIGaoTIMES KALadUDacZAaoRAaaBacIabUacSAaaGaa GUNUaa TIMES HAanNUTILLUahOVER SAG
aiTIMES AabDUaaBadENacHAacIGI GUNUaiKAKacURadLUMadMIacNUNadSALacHE AT LEFTajIDaeTABabK4aeU2abB
abMabRabSHalLaa LAGAB TIMES ASH2asNGA2aeRacHAaa3aa TIMES AabBADadGISHaeNEacSHU2aeTURadUaa PLUS A
aq6aa TENUagB6acR2adEaa HUacOVER SHEaa GAD OVER GAD GAR OVER GARazTAB OVER TAB GAR OVER GAR
biPLUS HUB2aeNAM2aeSARajG9acNabSHaa2abLAMagIDaa TIMES AabIMakMaa TIMES AabBALacULUGafDINadGAR
adIGIaa GUNUaiKUSHU2agLULadMUGadSALalNIGadRaa OVER SHIR BUR OVER BURawTENUagTAadU
aa OVER INVERTED SHUas2aa PLUS DUG TIMES NIamE2 TIMES ANasBURafIaa GUNUaeTIMES TAK4alGaa4
aa OVER SIG4 SHU2arK2acLA3aeUaa OVER SUaiDaa2acHURadMaaASHaeRaa9aeTAaa ASTERISKaiGUNUaeTIMES HI
acMIajBaa OVER TAB NI OVER NI DISH OVER DISHbiSQUAREDajGaa TIMES BIacGUDadSHEabUadTUG2aeUDakK4
aa PLUS SAGalRacEaa GUNUagIaa TENUaf2abLabRaa OVER TIRaa GAD OVER GAD GAR OVER GARbiTIMES TAK4
anUaaG2acKabMaa TIMES GAN2 TENUajTHREE DISHasRaa OVER TUR ZA OVER ZAaxUaa GUD
adOVER U PA OVER PA GAR OVER GARaxSUR OVER SURamU REVERSED OVER U REVERSEDbhUaa Uae2abBabD
aa GUNUaeKUSHU2agSHESHIGaa TIMES BADarTIMES BADadMIacU PLUS U PLUS Uaa GUNUbbUGadMaa TIMES LAGAB
afMEaa PLUS DAakSHA3aeUaiBINadUMaa TIMES KASKALagPAamNaa GUNUagRaa CROSSING URalSHESHIGai2
aa INVERTEDaiTIMES A PLUS HAacNAaiLacHAacNUNadU2aa PLUS ASHadBIajDak4abIaa3acUaa TIMES AaaSHGAB
agBARadDARA3aeUNadGAaaLabN2 TENUahRacUacHAacIGIacMabSHadKIacLAK-668agU3abMadMINadPAacSHEacIG4
aeTUacU PLUS GUDajDabRUDAamDAaa TIMES UamSHaa TIMES AabKUaaRadTAK4al2abUMXadXadTUKIaeZ3
aa TIMES KASKALaoUadZAaa SQUARED TIMES KURarTENUaf7abGabMXadE2acIaa OVER ZIai3abBaa KABA TENUalG
abZ2adUaa OVER ZU PLUS SARar5aa TIMES AabTHREE DISH TENUaxBURadMaqP ON BLACK SQUAREapWITH STRAW
alCAKEaeIDOaeRLING STONEajY BRACKET EXTENSIONarLOGICAL ANDadORaiOPahRENCY EXCHANGEaiSIGN
ajY AND RICEalVED STEM PARAGRAPH SIGN ORNAMENTbhSTARDadOMSafT OF MEATakYCLONEafLINDRICITY
akPRIOT SYLLABLE AabEabIabJAabOacKAabEabIabOabUacLAabEabIabOabUacMAabEabIabOabUacNAabEabIabOabU
acOabPAabEabIabOabUacRAabEabIabOabUacSAabEabIabOabUacTAabEabIabOabUacUabWAabEabIabOacXAabEacZA
abOapO-MINOAN SIGN CM001ab2ab4ab5ab6ab7ab8ab9ac10ab1ab2aaBac3ab5ab7ab9ac21ab3ab4ab5ab6ab7ab8ab9
ac30ab3ab4ab5ab6ab7ab8ab9ac40ab1ab4ab6ab7ab9ac50ab1ab2ab3ab4ab5ab6ab8ab9ac60ab1ab2ab3ab4ab6ab7
ab8ab9ac70ab1ab2ab3ab4ab5aaBac6ab8ab9ac80ab1ab2ab3ab4ab5ab6ab7ab8ab9ac90ab1ab2ab4ab5ab6ab7ab8ab9
ad100ab1ab2ab3ab4ab5ab7ab8ab9ac10ab2ab4ad301ab2avRILLIC CAPITAL LETTER Aaa WITH BREVEafDIAERESIS
apBKHASIAN CHEaa WITH DESCENDERasDZEadHAalLEUT KAaiBARRED Oaa WITH DIAERESISavSHKIR KAajE
abIG YUSafNOCULAR OakLENDED YUSakROAD OMEGAakYELORUSSIAN-UKRAINIAN IayCCHEadHEaa WITH DESCENDER
aiIAERESISajVERTICAL STROKEaxLOSED LITTLE YUSaqROSSED OajDCHEadEabJEaaRVaeOUBLE MONOCULAR OalO
ahWEacZEaaLOadHEacWEacZEabHEafEaa WITH DIAERESISapFabLaa WITH DESCENDERajHOOKaeMIDDLE HOOKalTAIL
alMaa WITH TAILalNaa WITH DESCENDERajHOOKaeLEFT HOOKajMIDDLE HOOKalTAILalRaa WITH TICKalS
aa WITH DESCENDERarFITAaeGHEaa WITH DESCENDERajMIDDLE HOOKalSTROKEaa AND HOOKapUPTURNaoJEadHA
aa WITH DESCENDERajHOOKaeSTROKEamRD SIGNaiWEadIaa WITH DIAERESISajGRAVEafMACRONamEaa WITH BREVE
afGRAVEamOaaTAabIFIED AabBIG YUSahCLOSED LITTLE YUSarEabLITTLE YUSakYATalZHITSA
aa WITH DOUBLE GRAVE ACCENTbgJEacKAaa WITH DESCENDERajHOOKaeSTROKEagVERTICAL STROKE
awHAKASSIAN CHEanJEacOMI DEabJEacZJEaeLJEadNJEadSJEadTJEadZJEagPPAaeSIadLHAacITTLE YUSajJE
adMONOCULAR OahGRAPH UKamNEUTRAL YERakJEadOaa WITH DIAERESISapMEGAaa WITH TITLOapTacPE
aa WITH DESCENDERajMIDDLE HOOKasSIadQAacREVERSED DZEadTSEadYUacZEakHAacOUND OMEGAalSCHWA
aa WITH DIAERESISatEMISOFT SIGNamHAabCHAadHAaa WITH DESCENDERarORT Iaa WITH TAILalUafWEadOFT DE
acELabMacSIGNaiTRAIGHT Uaa WITH STROKEawTCHEadEaa WITH DESCENDERajMIDDLE HOOKasSEabHEacSEacWE
adWEadUaa WITH DIAERESISaiOUBLE ACUTEamMACRONamKaaRAINIAN IEamVEacWEacYAaaEabTacERU
aa WITH BACK YERaiDIAERESISasIabNabUacZEaa WITH DESCENDERaiIAERESISapMLYAafHEaa WITH BREVE
afDESCENDERaiIAERESISaqWEakIGATURE A IEaeEN GHEagTE TSEaxKAVYKAagLETTER MULTIOCULAR OanPALOCHKA
aiSMALL CAPITAL ELaxPAYEROKahSMALL LETTER Aaa WITH BREVEafDIAERESISapBKHASIAN CHE
aa WITH DESCENDERasDZEadHAalLEUT KAaiBARRED Oaa WITH DIAERESISavSHKIR KAajEabIG YUSafNOCULAR O
akLENDED YUSakROAD OMEGAakYELORUSSIAN-UKRAINIAN IayCCHEadHEaa WITH DESCENDERaiIAERESIS
ajVERTICAL STROKEaxLOSED LITTLE YUSaqROSSED OajDCHEadEabJEaaRVaeOUBLE MONOCULAR OalOahWEacZEaaLO
adHEacWEacZEabHEafEaa WITH DIAERESISapFabLaa WITH DESCENDERajHOOKaeMIDDLE HOOKalTAILalM
aa WITH TAILalNaa WITH DESCENDERajHOOKaeLEFT HOOKajMIDDLE HOOKalTAILalRaa WITH TICKalS
aa WITH DESCENDERarFITAaeGHEaa WITH DESCENDERajMIDDLE HOOKalSTROKEaa AND HOOKapUPTURNaoJEadHA
aa WITH DESCENDERajHOOKaeSTROKEamRD SIGNaiWEadIaa WITH DIAERESISajGRAVEafMACRONamEaa WITH BREVE
afGRAVEamOaaTAabIFIED AabBIG YUSahCLOSED LITTLE YUSarEabLITTLE YUSakYATalZHITSA
aa WITH DOUBLE GRAVE ACCENTbgJEacKAaa WITH DESCENDERajHOOKaeSTROKEagVERTICAL STROKE
awHAKASSIAN CHEanJEacOMI DEabJEacZJEaeLJEadNJEadSJEadTJEadZJEagPPAaeSIadLHAacITTLE YUSajJE
acONG-LEGGED DEaoMONOCULAR OahGRAPH UKamNARROW OahEUTRAL YERakJEadOaa WITH DIAERESISapMEGA
aa WITH TITLOapTacPALOCHKAahEaa WITH DESCENDERajMIDDLE HOOKasSIadQAacREVERSED DZEadTSEadYUacZE
akHAacOUND OMEGAagED VEakSCHWAaa WITH DIAERESISatEMISOFT SIGNamHAabCHAadHAaa WITH DESCENDER
arORT Iaa WITH TAILalUafWEadOFT DEacELabMacSIGNaiTRAIGHT Uaa WITH STROKEawTALL HARD SIGNajTE
acYATahCHEadEaa WITH DESCENDERajMIDDLE HOOKasHREE-LEGGED TEaoSEabHEacSEacWEadWEadU
aa WITH DIAERESISaiOUBLE ACUTEamMACRONamKaaRAINIAN IEalNBLENDED UKamVEacWEabIDE ESahYAaaEabT
acERUaa WITH BACK YERaiDIAERESISasIabNabUacZEaa WITH DESCENDERaiIAERESISapMLYAafHEaa WITH BREVE
afDESCENDERaiIAERESISaqWEakIGATURE A IEaeEN GHEagTE TSEavTHOUSANDS SIGNaxDAGGERaa KNIFE
afWITH LEFT GUARDakRIGHT GUARDavLET SYMBOLakNCERadGOadRK SHADEaeUNGLASSESanSH SYMBOL
agWITH LEFT UPTURNarED LOW LINEaiOVERLINEaiTRIANGLE-HEADED RIGHTWARDS ARROWblTA LINK ESCAPEapC1
ab2ab3ab4abSacEAF PERSONajCIDUOUS TREEakMAL EXPONENT SYMBOLapSEPARATOR KEY SYMBOL
azREASE FONT SIZE SYMBOLaxERacGREE CELSIUSahFAHRENHEITakSIGNajLaaETEadIVERY TRUCKalTA EQUAL TO
amNTISTRY SYMBOL LIGHT DOWN AND HORIZONTALaa WITH CIRCLEagTRIANGLEaiWAVEbdUP AND HORIZONTAL
aa WITH CIRCLEagTRIANGLEaiWAVEbbVERTICAL AND BOTTOM LEFTaeRIGHTamTOP LEFTaeRIGHTajWAVE
aiWITH CIRCLEagTRIANGLEbrPARTMENT STOREaoRELICT HOUSE BUILDINGavSCENDING NODE
amERET CAPITAL LETTER AYacBEEadCHEEaeDEEadEFabLabMabNaaGacRabSaaHacTHacWacGAYadHabJEEadKAY
adLONG AaaHacEabIabOaaOahOIabWacPEEadSHORT AaaHacEabIabOaaOaiTEEacHEEaeVEEadWUacYEEadZEEacHEE
atSMALL LETTER AYacBEEadCHEEaeDEEadEFabLabMabNaaGacRabSaaHacTHacWacGAYadHabJEEadKAYadLONG AaaH
acEabIabOaaOahOIabWacPEEadSHORT AaaHacEabIabOaaOaiTEEacHEEaeVEEadWUacYEEadZEEacHEEauTaa ISLAND
akKTOP COMPUTERaiWINDOWamVANAGARI ABBREVIATION SIGNaqCUTE ACCENTamCARETafDANDAaeIGIT EIGHTafFIVE
adOURaeNINEaeONEadSEVENaeIXadTHREEaeWOadZEROajOUBLE DANDAamGAP FILLERajRAVE ACCENTamHEADSTROKE
akJAIN OMahLETTER AaaAabIabUabWabYacBAabBAacHAadCAaaNDRA AabEabOahHAadDAabDAabDAabHAadHAadHAadE
abFAacGAabGAacHAabHAadLOTTAL STOPamHAabEAVY YAaiIaaIacJAabHAacJAadKAabHAabHAaeLAabLAabLAaeMA
aaRWARI DDAalNAabGAacNAabNAadYAadOaaEabOEadPAabHAadQAacRAabHAacRAadSAabHAabORT AabEabOagSAadTA
abHAacTAabHAaeUaaEabUaaEadVAabOCALIC LaaLacRaaRakYAabYAadZAabHAakOMacSIGN ANUSVARAahVAGRAHA
aiCANDRABINDUaa AVAGRAHAaiTHREEaeWOadVIRAMAasDOUBLE CANDRABINDU VIRAMAazHIGH SPACING DOT
aqINVERTED CANDRABINDUauNUKTAafPUSHPIKAaiSIDDHAMagPACING CANDRABINDUatVIRAMAaeSARGA
alTRESS SIGN ANUDATTAaiUDATTAasVOWEL SIGN AAabIabUabWabYacCANDRA EabLONG EagOaiEabIaaIacOaaEabOE
adPRISHTHAMATRA EapSHORT EabOahUaaEabUaaEadVOCALIC LaaLacRaaRbdICE CONTROL FOURaeONEadSTRING
agTHREEaeWOarIAERESISagMETER SIGNajOND OPERATORaiSHAPE WITH A DOT INSIDEaxTARGET
agWITH BOTTOM HALF BLACKarLEFT HALF BLACKapRIGHT HALF BLACKaqTOP HALF BLACKazE FACE-1ab2ab3ab4
ab5ab6ahSEL LOCOMOTIVEapFFERENCE BETWEENaqGIT EIGHTaa COMMAafFULL STOPapFIVEaa COMMAafFULL STOP
anOURaa COMMAafFULL STOPaoNINEaa COMMAafFULL STOPaoONEaa COMMAafFULL STOPanSEVENaa COMMA
afFULL STOPaoIXaa COMMAafFULL STOPanTHREEaa COMMAafFULL STOPaoWOaa COMMAafFULL STOPanZERO
aa COMMAafFULL STOParRAM FOR EARTHaaLY HEAVENafUMANanGREATER YANGadINalHEAVENLY EARTH
anUMAN EARTHalLESSER YANGadINatMENSION ORIGINaoNGBAT CIRCLED SANS-SERIF DIGIT EIGHTafFIVEadOUR
aeNINEaeONEadSEVENaeIXadTHREEaeWOadZEROakNUMBER TENbdNEGATIVE CIRCLED DIGIT EIGHTafFIVEadOUR
aeNINEaeONEadSEVENaeIXadTHREEaeWOajNUMBER TENakSANS-SERIF DIGIT EIGHTafFIVEadOURaeNINEaeONE
adSEVENaeIXadTHREEaeWOadZEROakNUMBER TENbsRECT CURRENT SYMBOL FORM TWOaxHITaiSABLED CAR
aiPPOINTED BUT RELIEVED FACEarFACEaoCONTINUOUS UNDERLINE SYMBOLbbGUISED FACEamTTO MARK
aiVES AKURU DIGIT EIGHTafFIVEadOURaeNINEaeONEadSEVENaeIXadTHREEaeWOadZEROajOUBLE DANDA
amEND OF TEXT MARKaqGAP FILLERakINITIAL RAakLETTER AaaAacBAabHAadCAabHAadDAabDAabHAadHAadEabGA
abHAadHAacIaaIacJAacKAabHAadLAabLAadMAacNAabGAacNAacYAadOabPAabHAadRAacSAabHAacSAadTAabHAacTAadU
aaUacVAacYAabYAadZAajMEDIAL RAacYAajPREFIXED NASAL SIGNatSIGN ANUSVARAaiCANDRABINDUalHALANTA
ahNUKTAakVIRAMAafOWEL SIGN AAabIacEabIaaIacOabUaaUawIDESadNG MASKahSION SIGNadLASHafTIMES
alORCE SYMBOLamYA LAMPahZZY FACEaeSYMBOLalLEacNA DOUBLE HELIXapO NOT LITTER SYMBOLasCUMENT
aa WITH PICTUREahTEXTaa AND PICTUREbcDOacES NOT CONTAIN AS MEMBERagNORMAL SUBGROUPaa OR EQUAL
bjDIVIDEaa WITH REVERSED NEGATION SLASHbjFORCEafPRECEDEaa OR EQUALaoOVEafSUCCEEDaa OR EQUALaxG
aa FACEafRA ABBREVIATION SIGNarLETTER AaaAabIabUacBAabHAadCAabHAadDAabDAabHAadHAadEabGAabHAadHA
acIaaIacJAabHAadKAabHAadLAacMAacNAabGAacNAacYAadOabPAabHAadRAabRAadSAabHAacSAadTAabHAacTAabHAaeU
aaUacVAacYAajSIGN ANUSVARAaiNUKTAafVIRAMAaeSARGAamVOWEL SIGN AAabIabUacEabIaaIacOabUaaU
acVOCALIC RaaRazLLAR SIGNaiPHINafMINO TILE HORIZONTAL BACKaf-00-00ab1ab2ab3ab4ab5ab6ae1-00ab1ab2
ab3ab4ab5ab6ae2-00ab1ab2ab3ab4ab5ab6ae3-00ab1ab2ab3ab4ab5ab6ae4-00ab1ab2ab3ab4ab5ab6ae5-00ab1ab2
ab3ab4ab5ab6ae6-00ab1ab2ab3ab4ab5ab6aqVERTICAL BACKaf-00-00ab1ab2ab3ab4ab5ab6ae1-00ab1ab2ab3ab4
ab5ab6ae2-00ab1ab2ab3ab4ab5ab6ae3-00ab1ab2ab3ab4ab5ab6ae4-00ab1ab2ab3ab4ab5ab6ae5-00ab1ab2ab3ab4
ab5ab6ae6-00ab1ab2ab3ab4ab5ab6ayNG SIGNahORacT ABOVEafMINUSafOPERATORaiPLUSafTED CIRCLEafROSS
afFENCEafLINE FACEajOBELOSagRIGHT-POINTING ANGLEauSOLIDUSagQUAREagTRANSPOSITION MARKER
azUBLE ACUTE ACCENTamCIRCLED DIGIT EIGHTafFIVEadOURaeNINEaeONEadSEVENaeIXadTHREEaeWOajNUMBER TEN
arOLON EQUALakURLY LOOPakDAGGERafOWN TACKajEXCLAMATION MARKaqHIGH-REVERSED-9 QUOTATION MARK
bdYPHENagINTEGRALaeRSECTIONamLEFT ARC GREATER-THAN BRACKETbcOGICAL ANDadORaiW LINE
af-9 QUOTATION MARKaqREVERSED-9 QUOTATION MARKbdNESTED GREATER-THANamLESS-THANaa WITH UNDERBAR
beOBLIQUE HYPHENaoPLUSadRECEDESagIMEaa QUOTATION MARKauQUESTION MARK
anRIGHT ARC LESS-THAN BRACKETbbSOLIDUS OPERATORapQUARE INTERSECTIONamUNIONalTACKED COMMA
alROKE NOT SIGNaoUBSETaeCCEEDSagPERSETagSPENSION MARKapUNIONaeP TACKahVERTICAL BAR
aa DOUBLE LEFT TURNSTILEaoRIGHT TURNSTILEawLEFT TURNSTILEasLINEanWAVY OVERLINEao-ENDED MULTIMAP
aoLINE EQUAL TO OR GREATER-THANamLESS-THANavSLANTED EQUAL TO OR GREATER-THANamLESS-THAN
avGREATER-THAN OR EQUAL TOayLESS-THAN OR EQUAL TObiSTRUCK CAPITAL CabGAMMAafHabNabPaaIacQabRabZ
ajITALIC CAPITAL DajSMALL DabEabIabJaoN-ARY SUMMATIONapSMALL GAMMAafPIaqD FEMALE SIGNalMALE SIGN
ajSYMBOLalGHNUTagVE OF PEACEalWN ARROWHEADajFISH TAILajRIGHT DIAGONAL ELLIPSISaxTACK
aa WITH CIRCLE BELOWax-POINTING RED TRIANGLEamSMALL RED TRIANGLEasTRIANGLE WITH LEFT HALF BLACK
apRIGHT HALF BLACKboWARD FACING HOOKaa WITH DOTanNOTCHED HOOKaa WITH DOTbdS ANCORAafRROW
aa AND RIGHT ONE EIGHTH BLOCKbaFROM BARaiLEFTWARDS OF UPWARDS ARROWbaTO BAR
agWITH CORNER LEFTWARDSaqDOUBLE STROKEanEQUILATERAL ARROWHEADavHORIZONTAL STROKE
arLARGE TRIANGLE ARROWHEADayMEDIUM TRIANGLE ARROWHEADazNOTCHED TAILamSMALL EQUILATERAL ARROWHEAD
avTRIANGLE ARROWHEADayTIP LEFTWARDSajRIGHTWARDSazBLACK ARROWafCIRCLED WHITE ARROW
azCOMPRESSED ARROWaqDASHED ARROWalOUBLE ARROWamFINGER-POST ARROW
arHARPOON WITH BARB LEFT BESIDE DOWNWARDS HARPOON WITH BARB RIGHT
bhUPWARDS HARPOON WITH BARB RIGHTbmFROM BARaiTO BARahWARDSajRIGHT FROM BARaiTO BARahWARDS
bbEAVY ARROWafCOMPRESSED ARROWawPAIRED ARROWSanQUADRUPLE ARROWapROCKETagSANS-SERIF ARROW
apQUARED ARROWanTRIANGLE ARROWHEADak-HEADED ARROWaa LEFTWARDS OF UPWARDS TRIANGLE-HEADED ARROW
bqTO BARagWITH BOLD SHAFTakDOUBLE HORIZONTAL STROKEayHEAVY SHAFTalLONG TIP LEFTWARDSajRIGHTWARDS
atMEDIUM SHAFTamNARROW SHAFTamVERY HEAVY SHAFTbbDASHED ARROWamPAIRED ARROWSanZIGZAG ARROW
azPLE ARROWalWO HEADED ARROWan-HEADED ARROW WITH TRIANGLE ARROWHEADSbpWHITE ARROW
aa WITHIN TRIANGLE ARROWHEADblZIGZAG ARROWavRACHMA SIGNajFTING POINT RIGHTWARDS ARROWbcGON
aa FACEajESSadIVE SLOW SIGNanOMEDARY CAMELamOLING FACEakP OF BLOODajLETafUM WITH DRUMSTICKSatUCK
acMPLINGagPLOYAN AFFIX ATTACHED E HOOKagI HOOKagLEFT-TO-RIGHT SECANTauSECANTagTAILacNGENTaa HOOK
avHIGH ACUTEafCIRCLEagDOTadGRAVEafLINEadONG GRAVEakTIGHT ACUTEalVERTICALaa SECANTapWAVE
ajLEFT HORIZONTAL SECANTavOW ACUTEaeRROWafCIRCLEagDOTadGRAVEafLINEadONG GRAVEakTIGHT ACUTE
alVERTICALaa SECANTapWAVEaiMID HORIZONTAL SECANTarVERTICAL SECANTatRIGHT HORIZONTAL SECANT
bdDOUBLE MARKalLETTER AaaOUadBabDaa SacHacEaaEabUacFaa NadGaa R SafHaaLacIaaEacJaa Maa SadNaa S
adSaa WITH DOTakWITH DOTaaS INSIDE AND ABOVEbcKaa MabR SaeKacLaaHabONG IabUagMaa Naa SadS
abWITH DOTakNaa Maa SadSabWITH DOTajASAL AabIabOabUahOaaAabOHacUabWacPaa NacERNIN AMabNajRaa S
acHabOMANIAN IabUakSaa Jaa SadKaa RadMabNabPaa RadSabTaa RadWITH DOTaa BELOWapHORT IagLOAN AN
acDHacEEabHabNacJabONabWacUahTaa R SadSacHacUaa NacHabIacVaaOCALIC MajWaa RacAabEIacHabIabOaaW
adXaaWacYEajPUNCTUATION CHINOOK FULL STOPbdSIGN O WITH CROSSarTHICK LETTER SELECTORbdVD
adE-MAIL SYMBOLamAGLEadRaa OF MAIZEafRICEahWITH HEARING AIDarTHaa GLOBE AMERICASahSIA-AUSTRALIA
aoEUROPE-AFRICAasROUNDakST SYRIAC CROSSaqDITORIAL CORONISaqGGabYPTIAN HIEROGLYPH A001ab2ab3ab4
ab5aaAac6aaAabBac7ab8ab9ac10ab1ab2ab3ab4aaAac5ab6ab7aaAac8ab9ac20ab1ab2ab3ab4ab5ab6ab7ab8ab9ac30
ab1ab2aaAac3ab4ab5ab6ab7ab8ab9ac40aaAac1ab2aaAac3aaAac4ab5aaAac6ab7ab8ab9ac50ab1ab2ab3ab4ab5ab6
ab7ab8ab9ac60ab1ab2ab3ab4ab5ab6ab7ab8ab9ac70adA001ab2ab3ab4ab5ab6ab7aaAabBac8ab9ac10ab1ab2ab3ab4
ab5ab6ab7ab8ab9ac20ab1ab2ab3ab4ab5ab6ab7ab8ab9ac30ab1ab2afB001ab2ab3ab4ab5aaAac6ab7ab8ab9
adEGIN SEGMENTanC001ab2aaAabBabCac3ab4ab5ab6ab7ab8ab9ac10aaAac1ab2ab3ab4ab5ab6ab7ab8ab9ac20ab1
ab2ab3ab4aeD001ab2ab3ab4ab5ab6ab7ab8aaAac9ac10ab1ab2ab3ab4ab5ab6ab7ab8ab9ac20ab1ab2ab3ab4ab5ab6
ab7aaAac8ab9ac30ab1aaAac2ab3ab4aaAac5ab6ab7ab8ab9ac40ab1ab2ab3ab4ab5ab6aaAac7ab8aaAac9ac50aaAabB
abCabDabEabFabGabHabIac1ab2aaAac3ab4aaAac5ab6ab7ab8ab9ac60ab1ab2ab3ab4ab5ab6ab7aaAabBabCabDabE
abFabGabHafE001ab2ab3ab4ab5ab6ab7ab8aaAac9aaAad10ab1ab2ab3ab4ab5ab6aaAac7aaAac8ab9ac20aaAac1ab2
ab3ab4ab5ab6ab7ab8aaAac9ac30ab1ab2ab3ab4aaAac6ab7ab8adND SEGMENTalF001aaAac2ab3ab4ab5ab6ab7ab8
ab9ac10ab1ab2ab3aaAac4ab5ab6ab7ab8ab9ac20ab1aaAac2ab3ab4ab5ab6ab7ab8ab9ac30ab1aaAac2ab3ab4ab5ab6
ab7aaAac8aaAac9ac40ab1ab2ab3ab4ab5aaAac6aaAac7aaAac8ab9ac50ab1aaAabBabCac2ab3aeG001ab2ab3ab4ab5
ab6aaAac7aaAabBac8ab9ac10ab1aaAac2ab3ab4ab5ab6ab7ab8ab9ac20aaAac1ab2ab3ab4ab5ab6aaAac7ab8ab9ac30
ab1ab2ab3ab4ab5ab6aaAac7aaAac8ab9ac40ab1ab2ab3aaAac4ab5aaAac6ab7ab8ab9ac50ab1ab2ab3ab4aeH001ab2
ab3ab4ab5ab6aaAac7ab8adORIZONTAL JOINERarI001ab2ab3ab4ab5aaAac6ab7ab8ab9aaAad10aaAac1aaAac2ab3
ab4ab5adNSERT AT BOTTOM ENDadSTARTamTOP ENDadSTARTatK001ab2ab3ab4ab5ab6ab7ab8aeL001ab2aaAac3ab4
ab5ab6aaAac7ab8aeM001aaAabBac2ab3aaAac4ab5ab6ab7ab8ab9ac10aaAac1ab2aaAabBabCabDabEabFabGabHac3
ab4ab5aaAac6aaAac7aaAac8ab9ac20ab1ab2aaAac3ab4aaAac5ab6ab7ab8aaAac9ac30ab1aaAac2ab3aaAabBac4ab5
ab6ab7ab8ab9ac40aaAac1ab2ab3ab4aeN001ab2ab3ab4ab5ab6ab7ab8ab9ac10ab1ab2ab3ab4ab5ab6ab7ab8aaAabB
ac9ac20ab1ab2ab3ab4ab5aaAac6ab7ab8ab9ac30ab1ab2ab3aaAac4aaAac5aaAac6ab7aaAac8ab9ac40ab1ab2adL001
ab2ab3ab4ab5aaAac6ab7ab8ab9ac10ab1ab2ab3ab4ab5ab6ab7aaAac8ab9ac20aeU001ab2ab3ab4ab5ab6ab7ab8ab9
ac10aaAac1aaAac2ab3ab4ab5ab6ab7ab8aaAac9ac20ab1ab2aaAagO001aaAac2ab3ab4ab5aaAac6aaAabBabCabDabE
abFac7ab8ab9ac10aaAabBabCac1ab2ab3ab4ab5ab6ab7ab8ab9aaAad20aaAac1ab2ab3ab4aaAac5aaAac6ab7ab8ab9
aaAad30aaAac1ab2ab3aaAac4ab5ab6aaAabBabCabDac7ab8ab9ac40ab1ab2ab3ab4ab5ab6ab7ab8ab9ac50aaAabBac1
adVERLAY MIDDLEaoP001aaAac2ab3aaAac4ab5ab6ab7ab8ab9ac10ab1aeQ001ab2ab3ab4ab5ab6ab7aeR001ab2aaA
ac3aaAabBac4ab5ab6ab7ab8ab9ac10aaAac1ab2ab3ab4ab5ab6aaAac7ab8ab9ac20ab1ab2ab3ab4ab5ab6ab7ab8ab9
aeS001ab2aaAac3ab4ab5ab6aaAac7ab8ab9ac10ab1ab2ab3ab4aaAabBac5ab6ab7aaAac8ab9ac20ab1ab2ab3ab4ab5
ab6aaAabBac7ab8ab9ac30ab1ab2ab3ab4ab5aaAac6ab7ab8ab9ac40ab1ab2ab3ab4ab5ab6aeT001ab2ab3aaAac4ab5
ab6ab7aaAac8aaAac9aaAad10ab1aaAac2ab3ab4ab5ab6aaAac7ab8ab9ac20ab1ab2ab3ab4ab5ab6ab7ab8ab9ac30ab1
ab2aaAac3aaAac4ab5ab6aeU001ab2ab3ab4ab5ab6aaAabBac7ab8ab9ac10ab1ab2ab3ab4ab5ab6ab7ab8ab9ac20ab1
ab2ab3aaAac4ab5ab6ab7ab8ab9aaAad30ab1ab2aaAac3ab4ab5ab6ab7ab8ab9ac40ab1ab2aeV001aaAabBabCabDabE
abFabGabHabIac2aaAac3ab4ab5ab6ab7aaAabBac8ab9ac10ab1aaAabBabCac2aaAabBac3ab4ab5ab6ab7ab8ab9ac20
aaAabBabCabDabEabFabGabHabIabJabKabLac1ab2ab3aaAac4ab5ab6ab7ab8aaAac9aaAad30aaAac1aaAac2ab3aaA
ac4ab5ab6ab7aaAac8ab9ac40aaAaeERTICAL JOINERapW001ab2ab3aaAac4ab5ab6ab7ab8ab9aaAad10aaAac1ab2ab3
ab4aaAac5ab6ab7aaAac8aaAac9ac20ab1ab2ab3ab4aaAac5aeX001ab2ab3ab4aaAabBac5ab6aaAac7ab8aaAafY001
aaAac2ab3ab4ab5ab6ab7ab8aeZ001ab2aaAabBabCabDac3aaAabBac4aaAac5aaAac6ab7ab8ab9ac10ab1ab2ab3ab4
ab5aaAabBabCabDabEabFabGabHabIac6aaAabBabCabDabEabFabGabHayIGHT PETALLED OUTLINED BLACK FLORETTE
bfOINTED BLACK STARakPINWHEEL STARanRECTILINEAR BLACK STARbeSPOKED ASTERISK
apTEARDROP-SPOKED PROPELLER ASTERISKbjH NOTEakJECT SYMBOLalLBASAN LETTER AabBEacCEabHEadDEabHE
adEaaIacFEacGEabHAMMAaeEacJEadHEacIabJEacKEabHEadLEabLEadMEacNAabDEacEabJEadOabPEacQEacREabRE
adSEabHEadTEabHEadUabVEacXEacYabZEabHEaqECTRIC ARROWafLIGHT BULBakPLUGaeTORCHagAL INTERSECTION
auMENT OFaa OPENING DOWNWARDSajUPWARDSapWITH DOT ABOVEajLONG HORIZONTAL STROKEawOVERBAR
ahTWO HORIZONTAL STROKESawUNDERBARaiVERTICAL BAR AT END OF HORIZONTAL STROKEcbPHANTafVATORagF
abYMAIC LETTER ALEPHaeYINaeBETHaeDALETHagGIMELafHEaaTHaeKAPHaeLAMEDHagMEMadNUNadPEacQOPHaeRESH
aeSADHEadMEKHafHINaeTAWacETHaeWAWadYODHaeZAYINalIGATURE ZAYIN-YODHbaM DASHaeQUADaeSPACE
agOJI COMPONENT BALDaeCURLY HAIRakRED HAIRaiWHITE HAIRauMODIFIER FITZPATRICK TYPE-1-2ad3ab4ab5
ab6bfPHASIS SYMBOLamTY DOCUMENTaiNESTadOTEaa PADabGEajPAGEaaSafSETaa WITH LEFT ARROW ABOVE
aqOVERBARahRIGHT ARROW ABOVEarSMALL CIRCLE ABOVEbgN DASHaeQUADaeSPACEagD OF GUARDED AREAamLINE
aeMEDIUMagPROOFacTECTED AREAaoSELECTED AREAanTEXTadRANSMISSIONaa BLOCK
avWITH LEFTWARDS ARROW ABOVEbcQaaUIRYafTER SYMBOLakVELOPEaa WITH DOWNWARDS ARROW ABOVE
avLIGHTNINGawOLabMabTacPAacQUAL AND PARALLEL TOapTO BY DEFINITIONanOR GREATER-THANamLESS-THAN
ajPRECEDESaiSUCCEEDSapS COLONafSIGNaa ABOVE LEFTWARDS ARROWapPLUS SIGNajRIGHTWARDS ARROW
aqTILDE OPERATORatND SLANTED PARALLELaa WITH TILDE ABOVEblWITH BUMPY ABOVEalDOT BELOW
ajINFINITY BELOWaoTWO DOTS ABOVE AND TWO DOTS BELOWbrWITH ASTERISKarIANGULAR TOakVALENT TO
acWITH FOUR DOTS ABOVEbeRASE TO THE LEFTaeRIGHTaqIS FORM ONEadTWOalROR-BARRED BLACK CIRCLE
agDIAMONDahSQUAREamWHITE CIRCLEagDIAMONDahSQUAREaySAabCaaAPEaeTIMATED SYMBOLaiSaiTB
abHIOPIC COLONadMBINING GEMINATION AND VOWEL LENGTH MARKavMARKapVOWEL LENGTH MARKayMA
afDIGIT EIGHTafFIVEadOURaeNINEaeONEadSEVENaeIXadTHREEaeWOajFULL STOPajNUMBER EIGHTYagFIFTYaeORTY
afHUNDREDahNINETYagSEVENTYagIXTYafTENaa THOUSANDalHIRTYafWENTYanPARAGRAPH SEPARATOR
asREFACE COLONanQUESTION MARKanSECTION MARKakMICOLONaiYLLABLE BAaaAacBAaaAacEaaEacIabOabUacEaaE
acIabOaaAacUabWAabEaaEacIadCAaaAacCAaaAacEaaEacHAaaAacEaaEacHAaaAacEaaEacIabOabUacIabOabUacIabO
abUacEaaEacHAaaAacEaaEacIabOaaAacUabWAadIabOaaAacUabWAadDAaaAacDAaaAacEaaEacHAAacEaaEacIabOabU
acIabOaaAacUabWAadEaaEacIabOaaAacUabWAacZAAacEaaEacIabOabUadFAaaAacEaaEacIabOabUabWAabEaaEacI
acYAadGAaaAacEaaEacGAaaAacEaaEacIabOabUabWAaaAacEaaEacIadIabLOTTAL AaaAacEaaEacIabOaaAacUabWAajO
aaAacUaaRAGE BWEEacIadFWEEacIadGWEaaEacIadHHWAaeKWEaaEacIadMWEEacIadPWEEacIadQWEaaEacIajWAaaAacE
aaEacIacYAaaAacEaaEacIabOabUadHAaaAacEaaEacHAaaAacEaaEacIabOabUabWAabEaaEacIacYAaaAacEaaEacIabO
abUadIabOaaAacUacJAaaAacEaaEacIabOaaAacUabWAadKAaaAacEaaEacIabOaaAacUabWAaaAacEaaEacIacXAaaAacE
aaEacIabOabUabWAaaAacEaaEacIadYAaaAacEaaEacIabOabUadLAaaAacEaaEacIabOaaAacUabWAadMAaaAacEaaEacI
abOaaAacUabWAabEaaEacIacYAadNAaaAacEaaEacIabOaaAacUabWAacYAaaAacEaaEacIabOaaAacUabWAaePAaaAacE
aaEacHAaaAabRYNGEAL AaaAacEaaEacIabOabUakEaaEacIabOaaAacUabWAadIabOaaAacUabWAabEaaEacIadQAaaAacE
aaEacHAaaAacEaaEacIabOabUabWAaaAacEaaEacIadIabOaaAacUabWAaaAacEaaEacIacYAaaAacEaaEacIabOabUadRA
aaAacEaaEacIabOaaAacUabWAacYAadSAaaAacEaaBATBEIT BWAadFWAadMWAadPWAalEacHAaaAacEaaEacIabOaaAacU
abWAadIabOaaAacSAaaAacEaaEacIabOabUacUabWAacZAaaAacEaaEacIabOabUabWAaeTAaaAacEaaEacHAaaAacEaaE
acIabOaaAacUabWAadIabOaaAacSAaaAacEaaEacIabOabUabWAadTHAAacEaaEacIabOabUadUabWAacZAaaAacEaaEacI
abOaaAacUadVAaaAacEaaEacIabOabUabWAadWAaaAacEaaEacIabOaaAacUacXAaaAacEaaEacIabOaaAacUabWAaaAacE
aaEacIacYAaaAacEaaEacIabOabUadYAaaAacEaaEacIabOaaAacUacZAaaAacEaaEacHAaaAacEaaEacIabOabUabWAadI
abOaaAacUabWAacZAaaAacEaaEacIabOabUamTONAL MARK CHIRETagDERETaa-HIDETakIFATafHIDETafKENATaeURT
aeRIKRIKagSHORT RIKRIKamYIZETaqWORDSPACEaqXacULER CONSTANTamRO SIGNaf-CURRENCY SIGNaoPEAN CASTLE
agPOST OFFICEatVERGREEN TREEanXCESSadLAMATION MARKaeQUESTION MARKaxPRESSIONLESS FACE
arTENDED ARABIC-INDIC DIGIT EIGHTafFIVEadOURaeNINEaeONEadSEVENaeIXadTHREEaeWOadZERO
bdRATERRESTRIAL ALIENasEMELY HEAVY FIVE SPOKED ASTERISKauGREEK CROSSalSALTIRE
agIX SPOKED ASTERISKatWHITE CIRCLEagSQUAREbbYEaaGLASSESahSaeFACE HOLDING BACK TEARSasMASSAGE
ahPALMaeSAVOURING DELICIOUS FOODaxCREAMING IN FEARarTHROWING A KISSapWITH COLD SWEATaiWBOY HAT
akDIAGONAL MOUTHaoFINGER COVERING CLOSED LIPSbbHEAD-BANDAGEamLOOK OF TRIUMPHapMEDICAL MASK
alONOCLEahNO GOOD GESTUREapOK GESTUREajNE EYEBROW RAISEDarPEN EYES AND HAND OVER MOUTHayMOUTH
aa AND COLD SWEATaoVOMITINGatPARTY HORN AND PARTY HATaxEEKING EYEakLEADING EYESanROLLING EYES
amSTUCK-OUT TONGUEaa AND TIGHTLY-CLOSED EYESatWINKING EYEbgTEARS OF JOYalHERMOMETER
alUNEVEN EYES AND WAVY MOUTHbbOUT MOUTHapSIMILE SIGNalTORYafIRYadLAFELaeLEN LEAF
ahING DIAGONAL CROSSING NORTH EAST ARROWaqRISING DIAGONALayIN WHITE CIRCLE IN BLACK SQUAREbuMILY
aeRSI SYMBOLakTHER CHRISTMASaoX ICONaeMACHINEakEARFUL FACEajTHERafMALE SIGN
aiININE ORDINAL INDICATORayNCERaeRRIS WHEELaiYaeFabIELD HOCKEY STICK AND BALLazGURE DASHaeSPACE
akLE CABINETahFOLDERagSEPARATORalM FRAMESagPROJECTORamNITE PART INTEGRALasREaa ENGINE
afXTINGUISHERanCRACKERahWORK SPARKLERajSagST PLACE MEDALalQUARTER MOONaa SYMBOLagWITH FACE
awSTRONG ISOLATEasSHaa CAKE WITH SWIRL DESIGNaxEYEadING POLE AND FISHasTED HAND SIGN
aoVE DOT MARKaePUNCTUATIONatLAG IN HOLEajMINGOafT SHOEafBREADafNESSagEUR-DE-LISajXED BICEPS
alOPPY DISKaiRAL HEARTajWERaa PLAYING CARDSamUNCTUATION MARKavUSHED FACEakYaaING DISCaeENVELOPE
aiSAUCERamOGaaGYadLDERaeNDUEaeOTaaPRINTSaiR ALLaeCESadK AND KNIFEaa WITH PLATEavED PARAGRAPHOS
aoINGaeM FEEDagTUNE COOKIEamUNTAINafR BALLOON-SPOKED ASTERISKaxCLUB-SPOKED ASTERISK
atORNER ARROWS CIRCLING ANTICLOCKWISEbkDOT MARKaePUNCTUATIONapLEAF CLOVERalPOINTED BLACK STAR
asTEARDROP-SPOKED ASTERISKaz-PER-EM SPACEanTH ROOTajX FACEahRACTION NUMERATOR ONEanSLASH
alME WITH AN XaePICTUREahTILESaoEEZING FACEakNCH FRANC SIGNaiIESakIED SHRIMPakOG FACE
agNT-FACING BABY CHICKarTILTED SHADOWED WHITE RIGHTWARDS ARROWbpWNaaING FACE WITH OPEN MOUTHbcS
aaIacUEL PUMPahLL BLOCKafMOON SYMBOLagWITH FACEaoOUTER JOINakSTOPafWIDTH AMPERSANDaiPOSTROPHE
ajSTERISKaiBROKEN BARakCENT SIGNaiIRCUMFLEX ACCENTaqOLONadMMAabERCIAL ATanDIGIT EIGHTafFIVEadOUR
aeNINEaeONEadSEVENaeIXadTHREEaeWOadZEROajOLLAR SIGNalEQUALS SIGNakXCLAMATION MARKaqFULL STOP
ajGRAVE ACCENTakEATER-THAN SIGNarHYPHEN-MINUSamLATIN CAPITAL LETTER AabBabCabDabEabFabGabHabIabJ
abKabLabMabNabOabPabQabRabSabTabUabVabWabXabYabZaqSMALL LETTER AabBabCabDabEabFabGabHabIabJabK
abLabMabNabOabPabQabRabSabTabUabVabWabXabYabZatEFT CURLY BRACKETanPARENTHESISalSQUARE BRACKET
aoWHITE PARENTHESISauSS-THAN SIGNanOW LINEaiMACRONagNOT SIGNahUMBER SIGNalPERCENT SIGNalLUS SIGN
aiOUND SIGNakQUESTION MARKalOTATION MARKaoREVERSE SOLIDUSaoIGHT CURLY BRACKETanPARENTHESIS
alSQUARE BRACKETaoWHITE PARENTHESISaxSEMICOLONaiOLIDUSahTILDEafVERTICAL LINEanWON SIGNaiYEN SIGN
aqNCTION APPLICATIONarERAL URNajSEadVS1ab2ab3ab4aeGAME DIEagRLICafEARaa WITH HANDLESaiOUT HUB
aoM STONEagINIaeNIEadOMETRIC PROPORTIONalALLY EQUAL TOafIVALENT TOayRGIAN CAPITAL LETTER AENacN
acBANadCANacHARacINadILadDONadENacGANacHANaeHAEabRacEabIEacOEadINacJHANadILadKANacHARaeLASadMAN
adNARadONacPARacHARaeQARadRAEadSANacHINaeTANabRadUNacVINadWEacXANadYNacZENacHARatLETTER AENacIN
acNacBANadCANacHARacINadILadDONadELIFIaeNacFIacGANacHANaeHAEabRaaD SIGNaiEabIEacOEadINacJHANadIL
adKANacHARaeLABIAL SIGNajSadMANadNARadONacPARacHARaeQARadRAEadSANacHINaeTANabRacURNED GANakUN
acVINadWEacXANadYNacZENacHARalMTAVRULI CAPITAL LETTER AENacINacNacBANadCANacHARacINadILadDON
adELIFIaeNacFIacGANacHANaeHAEabRaaD SIGNaiEabIEacOEadINacJHANadILadKANacHARaeLABIAL SIGNajSadMAN
adNARadONacPARacHARaeQARadRAEadSANacHINaeTANabRacURNED GANakUNacVINadWEacXANadYNacZENacHAR
bcPARAGRAPH SEPARATORatSMALL LETTER AENacNacBANadCANacHARacINadILadDONadENacGANacHANaeHAEabRacE
abIEacOEadINacJHANadILadKANacHARaeLASadMANadNARadONacPARacHARaeQARadRAEadSANacHINaeTANabRadUN
acVINadWEacXANadYNacZENacHARayRMAN PENNY SIGNapTA MARKaiHOSTaeIMEL SYMBOLakRAFFE FACEajL
aaS SYMBOLalLAGOLITIC CAPITAL LETTER AZUadBIG YUSagUKYaeCAUDATE CHRIVIanHRIVIagDJERVIafOBRO
aeZELOafFITAadRITUafGLAGOLIahHERUaeIaaNITIAL IZHEalOTATED BIG YUSahSMALL YUSaqZHEabITSAahKAKO
aeLATINATE MYSLITEapJUDIJEahMYSLITEahNASHIafONUacTUadPEabOKOJIagRITSIafSHAabTAaaPICagLOVO
aeMALL YUSaa WITH TAILasPIDERY HAakTROKUTASTI AalSIacVRIDOagUKUadVEDEaeYATIadERIabUacSTUaeOabU
acZEMLJAafHIVETEawSMALL LETTER AZUadBIG YUSagUKYaeCAUDATE CHRIVIanHRIVIagDJERVIafOBROaeZELO
afFITAadRITUafGLAGOLIahHERUaeIaaNITIAL IZHEalOTATED BIG YUSahSMALL YUSaqZHEabITSAahKAKO
aeLATINATE MYSLITEapJUDIJEahMYSLITEahNASHIafONUacTUadPEabOKOJIagRITSIafSHAabTAaaPICagLOVO
aeMALL YUSaa WITH TAILasPIDERY HAakTROKUTASTI AalSIacVRIDOagUKUadVEDEaeYATIadERIabUacSTUaeOabU
acZEMLJAafHIVETEbcSS OF MILKalEICH STARKakOBE WITH MERIDIANSarVESadWING STARalOAL NETafTacGGLES
afLFERaeRILLAafTHIC LETTER AHSAadIHVUSagBAIRKANahDAGSaeEISadFAIHUafGIBAaeHAGLadWAIRafIGGWSaeUJA
aeJERadKUSMAafLAGUSafMANNAafNAUTHSafINE HUNDREDaiTYagOTHALafPAIRTHRAaiQAIRTHRAaiRAIDAafSAUIL
afTEIWSaeHIUTHagURUSaeWINJAasRADUATION CAPalNTHA AU LENGTH MARKaoLETTER AaaAabIabUacBAabHAadCA
abHAadDAabDAabHAadHAadEEacGAabHAadHAacIaaIacJAabHAadKAabHAadLAabLAadMAacNAabGAacNAacYAadOOacPA
abHAadRAacSAabHAacSAadTAabHAacTAabHAaeUaaUacVAabEDIC ANUSVARAaiDOUBLE ANUSVARAauOCALIC LaaLacR
aaRakYAajOMacSIGN ANUSVARAahVAGRAHAaiCANDRABINDUakOMBINING ANUSVARA ABOVEayNUKTAafPLUTAafVIRAMA
aeSARGAamVOWEL SIGN AAabIabUacEEacIaaIacOOacUaaUacVOCALIC LaaLacRaaRbaPESadVE ACCENT
akEATER-THAN ABOVE DOUBLE-LINE EQUAL ABOVE LESS-THANbhLESS-THAN ABOVE DOUBLE-LINE EQUAL
bhRIGHTWARDS ARROWaqSIMILAR ABOVE LESS-THANapOR EQUAL
apLANTED EQUAL ABOVE LESS-THAN ABOVE SLANTED EQUALccND NOT APPROXIMATEapSINGLE-LINE NOT EQUAL TO
bcBESIDE LESS-THANapUT NOT EQUAL TOafIVALENT TOavCLOSED BY CURVEaa ABOVE SLANTED EQUAL
bjEQUAL TO OR LESS-THANavOR APPROXIMATEalEQUAL TOafIVALENT TOanLESS-THANajSLANTED EQUAL TO
aa WITH DOT ABOVEaa LEFTakINSIDEbiVER EQUAL TOajLAPPING LESS-THANavSIGNaeWITH CIRCLE INSIDEanDOT
adQUESTION MARK ABOVEbiEK ACROPHONIC ATTIC FIFTYaa STATERSahTALENTSagHOUSANDaa STATERSauVE
aa HUNDREDaa STATERSahTALENTSapSTATERSahTALENTSagHOUSANDaa TALENTSavONE DRACHMAahHALF
adUNDRED STATERSahTALENTSapQUARTERahTHOUSAND STATERSahTALENTSauTEN MNASaeSTATERSahTALENTS
agHOUSAND STATERSbaCARYSTIAN FIVE HUNDREDavYRENAIC TWO DRACHMASavDELPHIC FIVE MNAS
arEPIDAUREAN FIVE HUNDREDamTWOaa DRACHMASaxHERAEUM ONE PLETHRONarMIONIAN FIFTYafONEadTEN
aoMESSENIAN TENanNAXIAN FIVE HUNDREDatSTRATIAN FIFTY MNASatTHESPIAN FIFTYadVE HUNDREDahTHOUSAND
anONEaa HUNDREDahTHOUSANDamTENacHIRTYaeREE HUNDREDamWOalROEZENIAN FIFTYaa ALTERNATE FORMasVE
aa HUNDREDamTENaa ALTERNATE FORMbnNO TELEIAajROURA SIGNajTABE SIGNalBETA SYMBOL
alCAPITAL DOTTED LUNATE SIGMA SYMBOLbaKAI SYMBOLakLETTER ALPHAaa WITH DASIAaa AND OXIA
aa AND PROSGEGRAMMENIaxPERISPOMENIaa AND PROSGEGRAMMENIbdROSGEGRAMMENIaoVARIA
aa AND PROSGEGRAMMENIbiMACRONagOXIAaePROSGEGRAMMENIanSILIaa AND OXIAaa AND PROSGEGRAMMENI
axPERISPOMENIaa AND PROSGEGRAMMENIbdROSGEGRAMMENIaoVARIAaa AND PROSGEGRAMMENIbiTONOSafVARIA
aeRACHYaqRCHAIC SAMPIanBETAaeCHIadDELTAafEPSILONaa WITH DASIAaa AND OXIAaeVARIAapOXIAaePSILI
aa AND OXIAaeVARIAapTONOSafVARIAarTAaa WITH DASIAaa AND OXIAaa AND PROSGEGRAMMENIaxPERISPOMENI
aa AND PROSGEGRAMMENIbdROSGEGRAMMENIaoVARIAaa AND PROSGEGRAMMENIbiOXIAaePROSGEGRAMMENIanSILI
aa AND OXIAaa AND PROSGEGRAMMENIaxPERISPOMENIaa AND PROSGEGRAMMENIbdROSGEGRAMMENIaoVARIA
aa AND PROSGEGRAMMENIbiTONOSafVARIAaoGAMMAafHETAaeIOTAaa WITH DASIAaa AND OXIAaePERISPOMENI
alVARIAaoIALYTIKAajMACRONagOXIAaePSILIaa AND OXIAaePERISPOMENIalVARIAapTONOSafVARIAaeRACHY
aqKAPPAafLAMDAafMUacNUacOMEGAaa WITH DASIAaa AND OXIAaa AND PROSGEGRAMMENIaxPERISPOMENI
aa AND PROSGEGRAMMENIbdROSGEGRAMMENIaoVARIAaa AND PROSGEGRAMMENIbiOXIAaePROSGEGRAMMENIanSILI
aa AND OXIAaa AND PROSGEGRAMMENIaxPERISPOMENIaa AND PROSGEGRAMMENIbdROSGEGRAMMENIaoVARIA
aa AND PROSGEGRAMMENIbiTONOSafVARIAaoICRONaa WITH DASIAaa AND OXIAaeVARIAapOXIAaePSILI
aa AND OXIAaeVARIAapTONOSafVARIAasPAMPHYLIAN DIGAMMAarHIacIabSIadRHOaa WITH DASIAaoSANacHOacIGMA
afTAUacHETAafUPSILONaa WITH DASIAaa AND OXIAaePERISPOMENIalVARIAaoIALYTIKAajMACRONagOXIAaeTONOS
afVARIAaeRACHYatXIacYOTadZETAakUNATE SIGMA SYMBOLatREVERSED DOTTED LUNATE SIGMA SYMBOL
baLUNATE SIGMA SYMBOLbcTHETA SYMBOLauDASIAaa AND OXIAaePERISPOMENIalVARIAaoIALYTIKA AND OXIA
aePERISPOMENIalVARIAajTONOSaoRACHMA SIGNamFIVE OBOLS SIGNaoOUR OBOLS SIGNapGRAMMA SIGN
alINDICTION SIGNamSTRUMENTAL NOTATION SYMBOL-1aa1ab2ab3ab4ab7ab8ab9ac2aa3ab4ab5ab6ab7ab9ac30ab2
ab6ab7ab8ab9ac4aa0ab2ab3ab5ab7ab8ab9ac5aa0ab1ab2ab3ab4ac7ab8beKAI SYMBOLaiPPA SYMBOLalORONIS
agYATHOS BASE SIGNarLETTER ARCHAIC KOPPAanDIGAMMAahKOPPAafSAMPIaeMALL CAPITAL GAMMAafLAMDA
afOMEGAafPIabSIadRHOaqTIGMAagYOTajITRA SIGNajOWER NUMERAL SIGNarUNATE EPSILON SYMBOL
aoSIGMA SYMBOLatMETRETES SIGNamUSICAL LEIMMAaoNUMERAL SIGNamOBOL SIGNaiNE HALF SIGN
aa ALTERNATE FORMayQUARTER SIGNapUNKIA SIGNakXIAaePERISPOMENIakHI SYMBOLajI SYMBOL
aiROSGEGRAMMENIanSILIaa AND OXIAaePERISPOMENIalVARIAapQUESTION MARK
anREVERSED LUNATE EPSILON SYMBOLbdHO SYMBOLagWITH STROKE SYMBOLawSINUSOID SIGN
amMALL DOTTED LUNATE SIGMA SYMBOLbaLETTER ALPHAaa WITH DASIAaa AND OXIAaa AND YPOGEGRAMMENI
awPERISPOMENIaa AND YPOGEGRAMMENIbdVARIAaa AND YPOGEGRAMMENIaxYPOGEGRAMMENIaxMACRONagOXIA
aa AND YPOGEGRAMMENIawPERISPOMENIaa AND YPOGEGRAMMENIbcSILIaa AND OXIAaa AND YPOGEGRAMMENI
awPERISPOMENIaa AND YPOGEGRAMMENIbdVARIAaa AND YPOGEGRAMMENIaxYPOGEGRAMMENIaxTONOSafVARIA
aa AND YPOGEGRAMMENIawRACHYagYPOGEGRAMMENIaxRCHAIC KOPPAafSAMPIanBETAaeCHIadDELTAaeIGAMMA
ahEPSILONaa WITH DASIAaa AND OXIAaeVARIAapOXIAaePSILIaa AND OXIAaeVARIAapTONOSafVARIAarTA
aa WITH DASIAaa AND OXIAaa AND YPOGEGRAMMENIawPERISPOMENIaa AND YPOGEGRAMMENIbdVARIA
aa AND YPOGEGRAMMENIaxYPOGEGRAMMENIaxOXIAaa AND YPOGEGRAMMENIawPERISPOMENIaa AND YPOGEGRAMMENI
bcSILIaa AND OXIAaa AND YPOGEGRAMMENIawPERISPOMENIaa AND YPOGEGRAMMENIbdVARIA
aa AND YPOGEGRAMMENIaxYPOGEGRAMMENIaxTONOSafVARIAaa AND YPOGEGRAMMENIaxYPOGEGRAMMENI
awFINAL SIGMAalGAMMAafHETAaeIOTAaa WITH DASIAaa AND OXIAaePERISPOMENIalVARIAaoIALYTIKA
aa AND OXIAaePERISPOMENIalTONOSafVARIAatMACRONagOXIAaePERISPOMENIakSILIaa AND OXIAaePERISPOMENI
alVARIAapTONOSafVARIAaeRACHYaqKAPPAaeOPPAafLAMDAafMUacNUacOMEGAaa WITH DASIAaa AND OXIA
aa AND YPOGEGRAMMENIawPERISPOMENIaa AND YPOGEGRAMMENIbdVARIAaa AND YPOGEGRAMMENIaxYPOGEGRAMMENI
axOXIAaa AND YPOGEGRAMMENIawPERISPOMENIaa AND YPOGEGRAMMENIbcSILIaa AND OXIAaa AND YPOGEGRAMMENI
awPERISPOMENIaa AND YPOGEGRAMMENIbdVARIAaa AND YPOGEGRAMMENIaxYPOGEGRAMMENIaxTONOSafVARIA
aa AND YPOGEGRAMMENIaxYPOGEGRAMMENIawICRONaa WITH DASIAaa AND OXIAaeVARIAapOXIAaePSILI
aa AND OXIAaeVARIAapTONOSafVARIAasPAMPHYLIAN DIGAMMAarHIacIabSIadRHOaa WITH DASIAafPSILIaoSAMPI
adNacHOacIGMAaeTIGMAagTAUacHETAafUPSILONaa WITH DASIAaa AND OXIAaePERISPOMENIalVARIAaoIALYTIKA
aa AND OXIAaePERISPOMENIalTONOSafVARIAatMACRONagOXIAaePERISPOMENIakSILIaa AND OXIAaePERISPOMENI
alVARIAapTONOSafVARIAaeRACHYatXIacZETAalREVERSED DOTTED LUNATE SIGMA SYMBOLbaLUNATE SIGMA SYMBOL
bhUBSCRIPT SMALL LETTER BETAaeCHIadGAMMAafPHIadRHOazYMBOL TAU RHOaoTALENT SIGNakHETA SYMBOL
akREE OBOLS SIGNakQUARTERS SIGNasONOSaeRYBLION BASE SIGNarWO OBOLS SIGNakTHIRDS SIGN
apUPSILON WITH ACUTE AND HOOK SYMBOLavDIAERESIS AND HOOK SYMBOLazHOOK SYMBOLayVARIA
aeOCAL NOTATION SYMBOL-1aa0ab1ab2ab3ab4ab5ab6ab7ab8ab9ac2aa0ab1ab2ab3ab4ac3ab4ab5aa0ab1ab2ab3ab4
ac6ab7ab8ab9axXESTES SIGNalYEAR SIGNaiPOGEGRAMMENIanZERO SIGNalN APPLEafBOOKaeHEARTafSALAD
ajIMACING FACEalNNING CAT FACE WITH SMILING EYESbaFACEaa WITH ONE LARGE AND ONE SMALL EYE
bbSMILING EYESalTAR EYESbaOUP MARKaeSEPARATORamWING HEARTamSabUARANI SIGNaiDSMANahIDE DOGagTAR
aeJARATI ABBREVIATION SIGNarDIGIT EIGHTafFIVEadOURaeNINEaeONEadSEVENaeIXadTHREEaeWOadZERO
akLETTER AaaAabIabUacBAabHAadCAabHAadDAabDAabHAadHAadEabGAabHAadHAacIaaIacJAabHAadKAabHAadLAabLA
adMAacNAabGAacNAacYAadOabPAabHAadRAacSAabHAacSAadTAabHAacTAabHAaeUaaUacVAabOCALIC LaaLacRaaRakYA
acZHAakOMacRUPEE SIGNakSIGN ANUSVARAahVAGRAHAaiCANDRABINDUakIRCLE NUKTA ABOVEasMADDAHagNUKTA
afSHADDAafUKUNafTHREE-DOT NUKTA ABOVEauWO-CIRCLE NUKTA ABOVEawVIRAMAaeSARGAamVOWEL CANDRA EabO
aiSIGN AAabIabUacCANDRA EabOaiEabIaaIacOabUaaUacVOCALIC LaaLacRaaRbcNJALA GONDI DIGIT EIGHT
afFIVEadOURaeNINEaeONEadSEVENaeIXadTHREEaeWOadZEROakLETTER AaaAabIabUacBAabHAadCAabHAadDAabDA
abHAadHAadEEacGAabHAadHAacIaaIacJAabHAadKAabHAadLAabLAadMAacNAabGAadOOacPAabHAadRAacSAacTAabHA
acTAabHAaeUaaUacVAacYAajOMacSIGN ANUSVARAaiVISARGAamVIRAMAafOWEL SIGN AAabIabUacEEacIaaIacOOacU
aaUazRMUKHI ABBREVIATION SIGNaqDDAKafDIGIT EIGHTafFIVEadOURaeNINEaeONEadSEVENaeIXadTHREEaeWO
adZEROakEK ONKARaiIRIadLETTER AaaAabIabUacBAabHAadCAabHAadDAabDAabHAadHAadEEacFAacGAabHAabHAaeHA
acIaaIacJAabHAadKAabHAabHAaeLAabLAadMAacNAabGAacNAacYAadOOacPAabHAadRAabRAadSAabHAadTAabHAacTA
abHAaeUaaUacVAacYAacZAajSIGN ADAK BINDIakBINDIafNUKTAafUDAATafVIRAMAaeSARGAahYAKASHalTIPPIafURA
adVOWEL SIGN AAabIabUacEEacIaaIacOOacUaaUawHADESadIR SPACEagCUTafLFWIDTH BLACK SQUARE
amDOWNWARDS ARROWapFORMS LIGHT VERTICALauHANGUL FILLERagLETTER AaaEacCHIEUCHagIEUCafEaaOabU
acHIEUHafIaaEUNGafKHIEUKHagIYEOKaa-SIOSalMIEUMafNIEUNaa-CIEUCafHIEUHalOaaEacPHIEUPHagIEUPaa-SIOS
akRIEULaa-HIEUHafKIYEOKagMIEUMafPHIEUPHagIEUPafSIOSaeTHIEUTHanSIOSadSANGCIEUCafKIYEOKagPIEUP
afSIOSaeTIKEUTalTHIEUTHagIKEUTagUabWAaaEacEaaOacIacYAaaEacEaaOacIabOabUaqIDEOGRAPHIC COMMA
afFULL STOPavKATAKANA LETTER AabEabHAabEabIabOabUacIabKAabEabIabOabUacMAabEabIabOabUacNaaAabEabI
abOabUacOabRAabEabIabOabUacSAabEabIabMALL AabEabIabOabTUacUabYAabOabUahOabUacTAabEabIabOabUacU
abWAabOacYAabOabUajMIDDLE DOTakSEMI-VOICED SOUND MARKawVOICED SOUND MARK
as-HIRAGANA PROLONGED SOUND MARKbmLEFT CORNER BRACKETapWARDS ARROWapRIGHT CORNER BRACKET
apWARDS ARROWaqUPWARDS ARROWanWHITE CIRCLEauMBURGERagMERaa AND PICKaeSICKLEagWRENCHaoSA
abTER FACEakND WITH INDEX AND MIDDLE FINGERS CROSSEDbaFINGER AND THUMB CROSSEDbkBAGabLLaeSHAKE
agGUL CHOSEONG CEONGCHIEUMCHIEUCHagIEUCafSIOSadSANGCIEUCafSIOSatHIEUCHaa-HIEUHafKHIEUKH
amTUEUMCHIEUCHagIEUCafSIOSadSANGCIEUCafSIOSaqIEUCaa-IEUNGalFILLERagHIEUHaa-SIOSakIEUNGaa-CHIEUCH
agIEUCafHIEUHafKIYEOKagMIEUMafPANSIOSagHIEUPHagIEUPafRIEULafSIOSaeTHIEUTHagIKEUTamKAPYEOUNMIEUM
afPHIEUPHagIEUPafRIEULafSSANGPIEUParHIEUKHagIYEOKaa-TIKEUTanMIEUMaa-KIYEOKagPIEUPafSIOSaeTIKEUT
amNIEUNaa-CIEUCafHIEUHafKIYEOKagPIEUPafSIOSaeTIKEUTamPANSIOSagHIEUPHaa-HIEUHafPIEUPamIEUP
aa-CHIEUCHagIEUCafHIEUHafKHIEUKHagIYEOKagNIEUNafPHIEUPHahSIOSaa-CIEUCafKIYEOKagPIEUPafTHIEUTH
agIKEUTakSANGSIOSajTHIEUTHagIKEUTamRIEULaa-CIEUCafHIEUHafKAPYEOUNPIEUPamHIEUKHagIYEOKagMIEUM
afNIEUNafPIEUPafSIOSadSANGKIYEOKagPIEUPafTIKEUTalTIKEUTamSIOSaa-CHIEUCHagIEUCafHIEUHafIEUNG
afKHIEUKHagIYEOKagMIEUMafNIEUNafPHIEUPHagIEUPaa-KIYEOKamRIEULafSSANGSIOSajTHIEUTHagIKEUT
akSANGCIEUCaa-HIEUHalHIEUHafIEUNGafKIYEOKagNIEUNafPIEUPafRIEULafSIOSaa-PIEUPakTHIEUTHagIKEUT
agYEORINHIEUHaqTHIEUTHagIKEUTaa-CIEUCafKIYEOKagMIEUMafPIEUPafRIEULafSIOSalYEORINHIEUHajSIEUNG
arDOUBLE DOT TONE MARKauFILLERagJONGSEONG CHIEUCHagIEUCaa-PIEUPafSSANGPIEUPaqHIEUHaa-MIEUM
afNIEUNafPIEUPafRIEULalIEUNGaa-KHIEUKHagIYEOKagSSANGKIYEOKarKAPYEOUNMIEUMafPHIEUPHagIEUPafRIEUL
amHIEUKHagIYEOKaa-CHIEUCHahHIEUHafKHIEUKHahNIEUNafPIEUPafRIEULafSIOSaa-KIYEOKasMIEUMaa-CHIEUCH
agIEUCafHIEUHafKIYEOKagNIEUNafPANSIOSagIEUPaa-SIOSakRIEULafSIOSadSANGNIEUNafSIOSapNIEUN
aa-CHIEUCHagIEUCafHIEUHafKIYEOKagPANSIOSahRIEULafSIOSaeTHIEUTHagIKEUTamPANSIOSaa-KAPYEOUNPIEUP
anPIEUPamHIEUPHaa-PIEUPafSIOSaeTHIEUTHaoIEUPaa-CHIEUCHagIEUCafHIEUHafMIEUMafPHIEUPHahRIEUL
aa-PHIEUPHanSIOSaa-TIKEUTalTIKEUTamRIEULaa-HIEUHafKAPYEOUNPIEUPamHIEUKHagIYEOKaa-HIEUHafSIOS
alMIEUMaa-HIEUHafKIYEOKagSIOSakNIEUNafPANSIOSagHIEUPHagIEUPaa-HIEUHafPHIEUPHahSIOSaeTIKEUTamSIOS
adSANGKIYEOKagSIOSajTHIEUTHagIKEUTaa-HIEUHamYEORINHIEUHaa-HIEUHapSIEUNGaoSIOSaa-CHIEUCHagIEUC
afHIEUHafKAPYEOUNPIEUPamIYEOKagMIEUMafPANSIOSagIEUPafRIEULafTHIEUTHagIKEUTakSANGCIEUCafIEUNG
afKIYEOKagMIEUMafNIEUNafPIEUPafRIEULaa-KHIEUKHanSIOSaa-KIYEOKagTIKEUTalTIKEUTaa-PIEUPamYESIEUNG
anTHIEUTHagIKEUTaa-CHIEUCHagIEUCafKIYEOKagPIEUPafRIEULafSIOSaa-KIYEOKalTHIEUTHaoYEORINHIEUH
ajSIEUNGaa-HIEUHafKHIEUKHagIYEOKagMIEUMafPANSIOSahSIOSadSANGKIYEOKbdUNGSEONG Aaa-EUacOabUacE
abRAEAaa-AabEaaOacIabUahEaaOaa-EUacOabUadUaa-AabEaaOabUacOabUaeFILLERagIaa-AaaRAEAafEUacIabOaa-I
adUabYAaa-OacEacEaaOacOabUaeOaa-EaaOacOaa-IadUabYAaaEacEaaOaeEacSSANGARAEAakUaa-AaaEacEO-EUafI-I
adUabYEaaOafWAaaEacEaaOacIacYAaa-OabUabYOadEacEaaOaa-OabUabYAafIaa-UadOaa-AaaEacEOacIabOabYAaaE
acEOafUaa-AaaEacEaaOacIabOabUabYEaaOaqLETTER AaaEabRAEAaaEagCHIEUCHagIEUCafEaaOabUacHIEUHafI
aaEUNGafKAPYEOUNMIEUMafPHIEUPHagIEUPafSSANGPIEUParHIEUKHagIYEOKaa-SIOSalMIEUMaa-PANSIOSagIEUP
afSIOSakNIEUNaa-CIEUCafHIEUHafPANSIOSahSIOSaeTIKEUTamOaaEacPANSIOSagHIEUPHagIEUPaa-CIEUCafKIYEOK
agSIOSaa-KIYEOKagTIKEUTalTHIEUTHagIKEUTamRIEULaa-HIEUHafKIYEOKaa-SIOSalMIEUMafPANSIOSagHIEUPH
agIEUPaa-SIOSakSIOSaeTHIEUTHagIKEUTagYEORINHIEUHarSIOSaa-CIEUCafKIYEOKagNIEUNafPIEUPafTIKEUT
akSANGCIEUCafHIEUHafIEUNGafKIYEOKagNIEUNafPIEUPafSIOSaeTIKEUTalTHIEUTHagIKEUTagUabWAaaEacEaaOacI
acYAaaEacEaaOaaRINHIEUHajSIEUNGaa-PANSIOSahSIOSamIabOaa-IabYAaaEafUaa-IabYEaaO
anSINGLE DOT TONE MARKaxZHOU NUMERAL EIGHTafFIVEadOURaeNINEaeONEadSEVENaeIXadTENacHIRTYaeREE
aeWENTYaeOarIFI ROHINGYA DIGIT EIGHTafFIVEadOURaeNINEaeONEadSEVENaeIXadTHREEaeWOadZEROakLETTER A
abBAacCAacDAabDAadFAacGAacHAacJAacKAabHAacINNA WAacYAaiLAacMAacNAabGAacYAadPAacRAabRAadSAabHA
adTAabTAadVAacWAacYAacZAajMARK NA KHONNAajSAKINakSIGN HARBAHAYaiTAHALAaeNAacSSIakVOWEL AabEabI
abOabUauUNOO LETTER AabBAacDAacGAacHAacIabKAacLAacMAacNAabGAadPAacRAacSAacTAacUabWAacYA
ajSIGN PAMUDPODanVOWEL SIGN IabUasPPY PERSON RAISING ONE HANDbbRD DISKahTCHING CHICK
alRAN LETTER ALEPHaeYNadBETHaeDALETH-RESHalGIMELafHEaaTHaeKAPHaeLAMEDHagMEMadNUNadPEacQOPH
aeSADHEadMEKHafHINaeTAWacETHaeWAWadYODHaeZAYNalNUMBER FIVEaeONEaa HUNDREDalTENacWENTYatEADPHONE
afSTONEaa GRAVEYARD SYMBOLaxR-NO-EVIL MONKEYapT DECORATIONakHANDSafWITH ARROWafRIBBON
agTIP ON THE LEFTaxVY AMPERSAND ORNAMENTarRROW SHAFT WIDTH ONEaa HALFaeTHIRDajTWO THIRDS
bbSTERISKaiBALLOT XahLACK CURVED DOWNWARDS AND RIGHTWARDS ARROWbeUPWARDS AND RIGHTWARDS ARROW
bjHEARTag-FEATHERED NORTH EAST ARROWaqRIGHTWARDS ARROWaqSOUTH EAST ARROWbgCHECK MARK
ahVRON SNOWFLAKEaqIRCLEaa WITH CIRCLE INSIDEanSTROKE AND TWO DOTS ABOVEbfD SALTIRE
aoONCAVE-POINTED BLACK RIGHTWARDS ARROWbmDASHED TRIANGLE-HEADED RIGHTWARDS ARROWbmIVISION SIGN
amOLLAR SIGNajUBLE COMMA QUOTATION MARK ORNAMENTbdTURNED COMMA QUOTATION MARK ORNAMENT
bpWNWARDS ARROW WITH EQUILATERAL ARROWHEADavLARGE EQUILATERAL ARROWHEAD
bwEIGHT POINTED BLACK STARakPINWHEEL STARanRECTILINEAR BLACK STARbeSPOKED ASTERISK
apTEARDROP-SPOKED PROPELLER ASTERISKbnQUALS SIGNakXCLAMATION MARK ORNAMENTaiSYMBOL
axFIVE POINTED BLACK STARasSPOKED ASTERISKatOUR BALLOON-SPOKED ASTERISKbcGREEK CROSS
alHEART EXCLAMATION MARK ORNAMENTbeORIZONTAL FILLapINTERROBANG ORNAMENTauLARGE CIRCLEakTIN CROSS
akEFT-POINTING ANGLE BRACKET ORNAMENTaqQUOTATION MARK ORNAMENT
bnWARDS ARROW WITH EQUILATERAL ARROWHEADavLARGE EQUILATERAL ARROWHEADbvIGATURE OPEN ET ORNAMENT
ayOW DOUBLE COMMA QUOTATION MARK ORNAMENTbkSINGLE COMMA QUOTATION MARK ORNAMENT
blER RIGHT-SHADOWED WHITE RIGHTWARDS ARROWbrMINUS SIGNajULTIPLICATION XaqNORTH EAST ARROW
afPOINTING BUDadVINE LEAFaxWEST POINTING BUDadVINE LEAFbdOPEN CENTRE CROSSaqUTLINED BLACK STAR
asVAL WITH OVAL INSIDEavPLUS SIGNajRIGHT-POINTING ANGLE BRACKET ORNAMENT
aqQUOTATION MARK ORNAMENTbnWARDS ARROWaa WITH EQUILATERAL ARROWHEADavLARGE EQUILATERAL ARROWHEAD
bwOUND-TIPPED RIGHTWARDS ARROWbdSALTIREafNS-SERIF INTERROBANG ORNAMENT
beCRIPT LIGATURE ET ORNAMENTbaINGLE COMMA QUOTATION MARK ORNAMENT
bdTURNED COMMA QUOTATION MARK ORNAMENTbpX POINTED BLACK STARasSPOKED ASTERISKasOUTH EAST ARROW
afPOINTING BUDadVINE LEAFaxWEST POINTING BUDadVINE LEAFbcPARKLE
ahTEARDROP-SHANKED RIGHTWARDS ARROWaxPOKED ASTERISKaiPINWHEEL ASTERISK
bgRIANGLE-HEADED RIGHTWARDS ARROWbfWELVE POINTED BLACK STARakPINWHEEL STAR
bcUPPER RIGHT-SHADOWED WHITE RIGHTWARDS ARROWbpWARDS ARROW WITH EQUILATERAL ARROWHEAD
avLARGE EQUILATERAL ARROWHEADbuVERTICAL BARamWEDGE-TAILED RIGHTWARDS ARROWbcHITE CIRCLE
agDOWN-POINTING TRIANGLEawSQUAREalIDE-HEADED RIGHTWARDS ARROWbgBREW ACCENT ATNAH HAFUKHamDARGA
aeEHIaeETNAHTAahGERESHaa MUQDAMakSHAYIMajILUYaeMAHAPAKHahERKHAaa KEFULAamUNAHafOLEadPASHTAaeZER
afQADMAadRNEY PARAalREVIAafSEGOLaeHALSHELETakTELISHA GEDOLAagQETANAamVIRaeIPEHAagYERAH BEN YOMO
amTIVafZAQEF GADOLafQATANajRQAaeINORamLETTER ALEFaa WITH MAPIQafPATAHafQAMATSaoTERNATIVE AYIN
aePLUS SIGNauYINaeBETaa WITH DAGESHagRAFEanDALETaa WITH DAGESHarFINAL KAFaa WITH DAGESHapMEM
adNUNadPEaa WITH DAGESHaoTSADIalGIMELaa WITH DAGESHarHEaa WITH MAPIQalTadKAFaa WITH DAGESHagRAFE
anLAMEDaa WITH DAGESHarMEMaa WITH DAGESHapNUNaa WITH DAGESHapPEaa WITH DAGESHagRAFEamQOF
aa WITH DAGESHapRESHaa WITH DAGESHaqSAMEKHaa WITH DAGESHarHINaa WITH DAGESHaa AND SHIN DOT
ahIN DOTasSHIN DOTahIN DOTarTAVaa WITH DAGESHaoETaa WITH DAGESHaoSADIaa WITH DAGESHarVAV
aa WITH DAGESHagHOLAMaoWIDE ALEFaeDALETafFINAL MEMajHEacKAFadLAMEDafRESHaeTAVaiYODaa WITH DAGESH
agHIRIQaoZAYINaa WITH DAGESHaxIGATURE ALEF LAMEDakYIDDISH DOUBLE VAVadYODakVAV YOD
ahYOD YOD PATAHbeMARK LOWER DOTajMASORA CIRCLEanUPPER DOTaoPOINT DAGESH OR MAPIQapHATAF PATAH
afQAMATSagSEGOLakIRIQaeOLAMaa HASER FOR VAVatJUDEO-SPANISH VARIKAauMETEGafPATAHafQAMATSaa QATAN
alUBUTSagRAFEaeSEGOLaeHEVAadIN DOTahIN DOTahTSEREakUNCTUATION GERESHadSHAYIMajMAQAFafNUN HAFUKHA
alPASEQafSOF PASUQavYOD TRIANGLEarDGEHOGagLICOPTERahLSCHREIBER PAUSE SYMBOLaxM SYMBOL
ahET WITH WHITE CROSSavNTAIGANA LETTER A-1ab2ab3abWOaeE-1ab2ab3ab4ab5ab6adHA-1aa0ab1ac2ab3ab4ab5
ab6ab7ab8ab9adE-1ab2ab3ab4ab5ab6ab7adI-1ab2ab3ab4ab5ab6ab7adO-1ab2ab3ab4ab5ab6ab7ab8adU-1ab2ab3
aeI-1ab2ab3ab4adKA-1aa0ab1ac2ab3ab4ab5ab6ab7ab8ab9abKEaeE-1ab2ab3ab4ab5ab6adI-1ab2ab3ab4ab5ab6
ab7ab8adO-1ab2ab3abKIaeU-1ab2ab3ab4ab5ab6ab7aeMA-1ab2ab3ab4ab5ab6ab7adE-1ab2abMAaeI-1ab2ab3ab4
ab5ab6ab7adO-1ab2ab3ab4ab5ab6adU-1ab2ab3ab4aeN-MU-MO-1ab2aiA-1ab2ab3ab4ab5ab6ab7ab8ab9adE-1ab2
ab3ab4ab5ab6abKOaeI-1ab2ab3ab4ab5ab6ab7abTEaeO-1ab2ab3ab4ab5adU-1ab2ab3aeO-1ab2ab3adRA-1ab2ab3
ab4adE-1ab2ab3ab4adI-1ab2ab3ab4ab5ab6ab7adO-1ab2ab3ab4ab5ab6adU-1ab2ab3ab4ab5ab6aeSA-1ab2ab3ab4
ab5ab6ab7ab8adE-1ab2ab3ab4ab5adI-1ab2ab3ab4ab5ab6adO-1ab2ab3ab4ab5ab6ab7adU-1ab2ab3ab4ab5ab6ab7
ab8aeTA-1ab2ab3ab4adE-1ab2ab3ab4ab5ab6ab7ab8ab9adI-1ab2ab3ab4ab5ab6ab7adO-1ab2ab3ab4ab5ab6abRA
aeU-1ab2ab3ab4abTOafU-1ab2ab3ab4ab5adWA-1ab2ab3ab4ab5adE-1ab2ab3ab4adI-1ab2ab3ab4ab5adO-1ab2ab3
ab4ab5ab6ab7aeYA-1ab2ab3ab4ab5abYOaeO-1ab2ab3ab4ab5ab6adU-1ab2ab3ab4auRB
abMITIAN CONJUGATE MATRIXayXAGRAM FOR ABUNDANCEaiFTER COMPLETIONapPPROACHaiBEFORE COMPLETION
aqITING THROUGHanREAKTHROUGHamCOMING TO MEETamNFLICTafTEMPLATIONanDARKENING OF THE LIGHT
avECREASEagLIVERANCEajVELOPMENTakIFFICULTY AT THE BEGINNINGazSPERSIONajURATIONaiENTHUSIASM
akFELLOWSHIPajOLLOWINGajGATHERING TOGETHERarRACEadEAT POSSESSIONaiWERaeREPONDERANCEanTAMING
amHOLDING TOGETHERaqINCREASEagFLUENCEahNER TRUTHaiOCENCEajLIMITATIONakMODESTYafUTH CORNERS
anOBSTRUCTIONakPPOSITIONahRESSIONakPEACEaeROGRESSahUSHING UPWARDaoRETREATaeURNaeVOLUTION
akSMALL PREPONDERANCEanTAMINGalPLITTING APARTaoTANDSTILLakTHE ABYSMAL WATERamRMYacOUSING THUNDER
aqCAULDRONahLINGING FIREamREATIVE HEAVENapFAMILYagGENTLE WINDalJOYOUS LAKE
alKEEPING STILL MOUNTAINawMARRYING MAIDENapRECEPTIVE EARTHapWANDERERahELLahREADINGaiWAITING
agORK ON THE DECAYEDatYOUTHFUL FOLLYbaIBISCUSagGH BRIGHTNESS SYMBOLarOCTET PRESETamVOLTAGE SIGN
an-HEELED SHOEalSPEED TRAINaa WITH BULLET NOSEbfKING BOOTajNDU TEMPLEakPPOPOTAMUS
akRAGANA DIGRAPH YORIamITERATION MARKaoLETTER AaaRCHAIC WUacYEakBAabEabIabOabUacDAabEabIabOabU
acEabGAabEabIabOabUacHAabEabIabOabUacIabKAabEabIabOabUacMAabEabIabOabUacNaaAabEabIabOabUacOabPA
abEabIabOabUacRAabEabIabOabUacSAabEabIabMALL AabEabIabKAabEacOabTUacUabWAabEabIabOacYAabOabUahO
abUacTAabEabIabOabUacUabVUacWAabEabIabOacYAabOabUacZAabEabIabOabUajVOICED ITERATION MARK
bcSTORIC SITEamOCHOadLEabLOW QUILT SQUARE ORNAMENTaa IN BLACK SQUAREbqMOTHETICaiNEY POTaeBEEagOK
acPabRIZONTAL BARacLACK HEXAGONahOCTAGONanELLIPSISaiLINE EXTENSIONaoMALE WITH STROKE SIGN
avONE EIGHTH BLOCK-1358ae2ab3ab4ab5ab6ab7asSCAN LINE-1ab3ab7ab9alTAB KEYaeULATIONaa SET
adWITH JUSTIFICATIONbcRAFFIC LIGHTavSEaa FACEaeRACINGakSPITALagT BEVERAGEaiDOGadPEPPERagSPRINGS
aiELadURGLASSaa WITH FLOWING SANDaySEaa BUILDINGaaSajWITH GARDENaqRYVNIA SIGNalTaaJabS
acUGGING FACEakNDRED POINTS SYMBOLatSHED FACEajTacYGIEAaePHENaa BULLETagWITH DIAERESISap-MINUS
agATION POINTaoODIASTOLEakSTERESIS SYMBOLarI LOVE YOU HAND SIGNatCE CREAMaeUBE
aeHOCKEY STICK AND PUCKavSKATEaiDENTICAL TOaa AND SLANTED PARALLELaxWITH DOT ABOVE
asFICATION CARDaqOGRAPHIC ANNOTATION BOTTOM MARKalEARTH MARKakFIRST MARKajOUR MARKafTH MARK
alHEAVEN MARKalLINKING MARKamMAN MARKahIDDLE MARKalONE MARKaiREVERSE MARKamSECOND MARK
alTHIRD MARKaiREE MARKajOP MARKahWO MARKatCLOSING MARKalOMMAafDEPARTING TONE MARK
arSCRIPTION CHARACTER ABOVE TO BELOWafMIDDLE AND BELOWazFULL SURROUNDanLEFT TO MIDDLE AND RIGHT
aqRIGHTanOVERLAIDaiSURROUND FROM ABOVEafBELOWafLEFTadOWER LEFTakUPPER LEFTaeRIGHT
bvENTERING TONE MARKasFULL STOPajHALF FILL SPACEapITERATION MARKaoLEVEL TONE MARKapNUMBER ZERO
alRISING TONE MARKaqSPACEafTALLY MARK FIVEadOURaeONEadTHREEaeWO
anELEGRAPH LINE FEED SEPARATOR SYMBOLbaSYMBOL FOR APRILaeUGUSTagDAY EIGHTaaEENahLEVENagFIFTEEN
afVEadOURaaTEENaiNINEaaTEENaiONEadSEVENaaTEENaiIXaaTEENahTENacHIRTEENadYaa-ONEaiREEaeWELVEadNTY
aa-EIGHTafFIVEadOURaeNINEaeONEadSEVENaeIXadTHREEaeWOaiOagECEMBERaiFEBRUARYaiHOUR EIGHTaaEEN
ahLEVENagFIFTEENafVEadOURaaTEENaiNINEaaTEENaiONEadSEVENaaTEENaiIXaaTEENahTENacHIRTEENagREE
aeWELVEadNTYaa-FOURaeONEadTHREEaeWOaiOadZEROajJANUARYagULYacNEaeMARCHadYadNOVEMBERaiOCTOBER
ahSEPTEMBERbeVARIATION INDICATORbeMAGE OFaa OR APPROXIMATELY EQUAL TObgP
aaERIAL ARAMAIC LETTER ALEPHaeYINaeBETHaeDALETHagGIMELafHEaaTHaeKAPHaeLAMEDHagMEMadNUNadPEacQOPH
aeRESHaeSADHEadMEKHafHINaeTAWacETHaeWAWadYODHaeZAYINamNUMBER ONEaa HUNDREDahTHOUSANDamTEN
aa THOUSANDalHREEaeWENTYaeOakSECTION SIGNbcNBOX TRAYaiCOMING ENVELOPEamPLETE INFINITY
aqREASE FONT SIZE SYMBOLarS ASahMENTahDaaEXaa POINTING AT THE VIEWERazIAN RUPEE SIGN
anC SIYAQ ALTERNATE LAKH MARKatFRACTION ONE HALFaeQUARTERalTHREE QUARTERSaxLAKH MARK
ajNUMBER ALTERNATE ONEadTEN THOUSANDalWOanEIGHTaa HUNDREDahTHOUSANDajYaa THOUSANDapFIFTY
aa THOUSANDamVEaa HUNDREDahTHOUSANDamORTYaa THOUSANDamURaa HUNDREDahTHOUSANDanKARORaaANahLAKH
aaANagNINEaa HUNDREDahTHOUSANDajTYaa THOUSANDapONEaa HUNDREDahTHOUSANDamPREFIXED EIGHTafFIVE
adOURaeNINEaeONEadSEVENaeIXadTHREEaeWOamSEVENaa HUNDREDahTHOUSANDajTYaa THOUSANDapIXaa HUNDRED
ahTHOUSANDajTYaa THOUSANDaoTENaa THOUSANDalHIRTYaa THOUSANDanREEaa HUNDREDahTHOUSANDanWENTY
aa THOUSANDanOaa HUNDREDahTHOUSANDatPLACEHOLDERalRUPEE MARKauFINITYaa NEGATED WITH VERTICAL BAR
bfORMATION DESK PERSONalSEPARATOR FOURaeONEadTHREEaeWOamOURCEaqHIBIT ARABIC FORM SHAPING
atSYMMETRIC SWAPPINGayPUT SYMBOL FOR LATIN CAPITAL LETTERSapLETTERSahSMALL LETTERSatNUMBERS
ahSYMBOLSawSCRIPTIONAL PAHLAVI LETTER ALEPHafBETHaeDALETHagGIMELafHEaaTHaeKAPHaeLAMEDHagMEM-QOPH
aiNUNadPEacSADHEadMEKHafHINaeTAWacETHaeWAW-AYIN-RESHanYODHaeZAYINamNUMBER FOURaeONEaa HUNDRED
ahTHOUSANDamTENacHREEaeWENTYaeOaqRTHIAN LETTER ALEPHaeYINaeBETHaeDALETHagGIMELafHEaaTHaeKAPH
aeLAMEDHagMEMadNUNadPEacQOPHaeRESHaeSADHEadMEKHafHINaeTAWacETHaeWAWadYODHaeZAYINamNUMBER FOUR
aeONEaa HUNDREDahTHOUSANDamTENacHREEaeWENTYaeObeERTION SYMBOLaoTEGRALaa AROUND A POINT OPERATOR
awVERAGE WITH SLASHasEXTENSIONajWITH DOUBLE STROKEanINTERSECTIONamLEFTWARDS ARROW WITH HOOK
azOVERBARahTIMES SIGNakUNDERBARagIONapRCALATEagIOR PRODUCTalLINEAR ANNOTATION ANCHORagSEPARATOR
ajTERMINATORbbOCKED FEMALE AND MALE SIGNbbROBANGagSECTIONaa ABOVE BAR ABOVE UNIONapUNION
alBESIDE AND JOINED WITH INTERSECTIONbjWITH DOTadLOGICAL ANDalOVERBARaxVERSE BULLETagCHECK MARK
afER BOARD FILLasDOWNWARDS ARROW WITH TIP LEFTWARDSbiMEDIUM SHADEamWHITE CIRCLE
apTED EXCLAMATION MARKaqINTERROBANGalLAZY SafOW KAVYKAaa WITH KAVYKA ABOVEbcOHM SIGNaiPENTAGRAM
ajQUESTION MARKanUNDERTIEaoISIBLE PLUSaeSEPARATORajTIMESaoZAKAYA LANTERNapJACK-O-LANTERN
amPANESE BANK SYMBOLalCASTLEagDOLLSafGOBLINagINDUSTRIAL STANDARD SYMBOLbaOGREaePOST OFFICE
alSYMBOL FOR BEGINNERbaRabVANESE CONSONANT SIGN CAKRAafKERETafPENGKALawDIGIT EIGHTafFIVEadOUR
aeNINEaeONEadSEVENaeIXadTHREEaeWOadZEROakLEFT RERENGGANamTTER AaaIacBAaa MURDAaiCAaa MURDAaiDA
aa MAHAPRANAalDAaa MAHAPRANAanEabGAaa MURDAaiHAacIaa KAWIafIacJAaa MAHAPRANAamKAaa MURDAafSASAK
aiLAacMAacNAaa MURDAahGAaa LELETaa RASWADIaqYAaa MURDAajOabPAaa CEREKafMURDAaiRAaa AGUNGaiSA
aa MAHAPRANAaiURDAaiTAaa MURDAahTAaa MAHAPRANAanUabWAacYAajPADA ADEGaa ADEGaiNDAPafISEN-ISEN
ajLINGSAafUHURadNGSIagMADYAafPANGKATagISELEHahTIRTA TUMETESanWINDUaiNGKONadRANGKEP
alRIGHT RERENGGANapSIGN CECAKaa TELUakLAYARafPANYANGGAajWIGNYANamTURNED PADA PISELEH
atVOWEL SIGN DIRGA MUREakPEPETafSUKUaa MENDUTalTALINGaeRUNGafOLONGagWULUaa MELIKbdEANS
aeIGSAW PUZZLE PIECEasOINacYSTICKahUGGLINGagNOacPITERahKAABAadITHI ABBREVIATION SIGNarDANDA
aeOUBLE DANDAafSECTION MARKatENUMERATION SIGNaqLETTER AaaAabIabUacBAabHAadCAabHAadDAabDAabDHA
adHAadHAadEabGAabHAadHAacIaaIacJAabHAadKAabHAadLAacMAacNAabGAacNAacYAadOabPAabHAadRAabHAadSAabHA
acSAadTAabHAacTAabHAaeUaaUacVAacYAajNUMBER SIGNaa ABOVEarSECTION MARKalIGN ANUSVARAaiCANDRABINDU
alNUKTAafVIRAMAaeSARGAamVOWEL SIGN AAabIabUacEabIaaIacOabUaaUacVOCALIC RazNGAROO
aeXI RADICAL AGAINaeNDacRRIVEadOWaeXEadBADGERaeMBOOafEANadIGabRDacTTERafLACKadOODadUEadOATacDY
acLT OF CLOTHalNEacWacRANCHaeISTLEafUSHafCARTacULDRONagVEadHILDaeITYadLANabWacIFFadOTHESagOLOR
adMPAREafRPSEaeVERadWadDEATHadERadIPPERaeSHabTINGUISHajVINATIONajO NOTaeGabORacTaaTED CLIFF
afTENTajUBLE XagWN BOXahRAGONaeUMacYadEARaaTHadTacIGHTaeMBROIDERYajNCLOSUREahTERaeVENaaINGagYE
adFACEacNGacTHERafEATHERagIELDadGHTadREacSHadLUTEadYacOOTadRAGRANTagOGadURadGATEadHOSTaeO
aa SLOWLYahLDadRAINacSSafHAIRacLBERDaeF TREE TRUNKanNDadEADabRTadMPadIDING ENCLOSUREapOOKacRN
abSEafICEacNCHacSECTagJADEacRadKNIFEafLACKacMEadEAFabTHERafEKacGSadIDabFEacNEadONGaa STRIDEalMAN
acEATacLONaeILLETaeNISTERahOONacRNINGaeTARaeUNDabTAINafTHafNETacOSEacTadOLDacNEaaSELFagPEN BOX
agPOSEagPIGacLOWadOWERaeRIVATEafOFOUNDaiRAINacPabTacEDacICEacGHT OPEN BOXamVERaeOOFadUN
adSACRIFICIAL WINEaoLTacYacCHOLARafRIPTafEALacCONDaeEabLFadHEEPacLLadOOTacRT TAILED BIRDakHREAD
alICKNESSagLKadKINadLASHacVEadICEaeMALLaeNOUTaeOUNDaePEARacECHaeIRITaeOONadROUTafQUAREafTAND
adEAMacPacONEacPaaPINGahUNacWEETafTABLEadLLacNNED LEATHERanENacIGERadLEadONGUEaeOTHaeRACKadEE
acIPODafURBANadTLEafWOaa HANDSajUSEadVALLEYafILLAGEahWALKaa ENCLOSUREamTERaeEAPONaeSTadHEATadITE
aeINDabEadOMANadRKadRAPacONGafYELLOWasNADA AI LENGTH MARKaoDIGIT EIGHTafFIVEadOURaeNINEaeONE
adSEVENaeIXadTHREEaeWOadZEROakLENGTH MARKajTTER AaaAabIabUacBAabHAadCAabHAadDAabDAabHAadHAadEaaE
acFAacGAabHAadHAacIaaIacJAabHAadKAabHAadLAabLAabLAaeMAacNAaaKAARA POLLUamGAacNAacYAadOaaOacPA
abHAadRAabRAadSAabHAacSAadTAabHAacTAabHAaeUaaUacVAabOCALIC LaaLacRaaRakYAajSIGN ANUSVARA
ahVAGRAHAaiCANDRABINDUalJIHVAMULIYAalNUKTAafSIDDHAMagPACING CANDRABINDUatUPADHMANIYAalVIRAMA
aeSARGAamVOWEL SIGN AAabIabUacEaaEacIaaIacOaaOacUaaUacVOCALIC LaaLacRaaRbbTAKANA DIGRAPH KOTO
amITERATION MARKaoLETTER AaaRCHAIC EabWUacYEabIakBAabEabIabOabUacDAabEabIabOabUacEabGAabEabIabO
abUacHAabEabIabOabUacIabKAabEabIabOabUacMAabEabIaaNNAN NASALIZED TONE-1ab2ab3ab4ab5ab7ab8
aqTONE-2ab3ab4ab5ab7ab8amOabUacNaaAabEabIabOabUacOabPAabEabIabOabUacRAabEabIabOabUacSAabEabI
abMALL AabEabHAabEabIabOabUacIabKAabEabUacMUacNaaUacOabRAabEabIabOabUacSIabUacTOabUacUabWAabEabI
abOacYAabOabUahOabUacTAabEabIabOabUacUabVAabEabIabOabUacWAabEabIabOacYAabOabUacZAabEabIabOabU
ajMIDDLE DOTakVOICED ITERATION MARKaw-HIRAGANA DOUBLE HYPHENanPROLONGED SOUND MARK
auSEMI-VOICED SOUND MARKawVOICED SOUND MARKbhYAH LI DIGIT EIGHTafFIVEadOURaeNINEaeONEadSEVENaeIX
adTHREEaeWOadZEROakLETTER AabBAacCAacDAacGAacHAabTAadIabKAabHAadLAacMAacNAabGAacYAadOEabOacPA
abHAadRAacSAabHAadTAabHAadVAacWAacYAacZAajSIGN CWIadSHYAajTONE CALYAaa PLOPHUamPLOPHUalVOWEL E
aaEacOabUaaEaqELVIN SIGNajYaaBOARDaa AND MOUSEapCAP TENajHAROSHTHI DIGIT FOURaeONEadTHREEaeWO
ajFRACTION ONE HALFarLETTER AabBAabHAadCAabHAadDAabDAabHAadHAadGAabHAadHAacJAacKAabHAacKAadLA
acMAacNAabNAacYAadPAabHAadRAacSAabHAacSAadTAabHAacTAabHAacTAabHAafVAabHAadYAacZA
ajNUMBER ONE HUNDREDahTHOUSANDamTENacWENTYanPUNCTUATION CIRCLEafRESCENT BARamDANDAaeOT
abUBLE DANDAamLINESaeOTUSafMANGALAMaiSMALL CIRCLEaySIGN ANUSVARAaiBAR ABOVEajCAUDAafDOT BELOW
ahUBLE RING BELOWarVISARGAamVIRAMAafOWEL LENGTH MARKalSIGN EabIabOabUabVOCALIC R
bdITAN SMALL SCRIPT CHARACTER-18B00ab1ab2ab3ab4ab5ab6ab7ab8ab9abAabBabCabDabEabFac10ab1ab2ab3ab4
ab5ab6ab7ab8ab9abAabBabCabDabEabFac20ab1ab2ab3ab4ab5ab6ab7ab8ab9abAabBabCabDabEabFac30ab1ab2ab3
ab4ab5ab6ab7ab8ab9abAabBabCabDabEabFac40ab1ab2ab3ab4ab5ab6ab7ab8ab9abAabBabCabDabEabFac50ab1ab2
ab3ab4ab5ab6ab7ab8ab9abAabBabCabDabEabFac60ab1ab2ab3ab4ab5ab6ab7ab8ab9abAabBabCabDabEabFac70ab1
ab2ab3ab4ab5ab6ab7ab8ab9abAabBabCabDabEabFac80ab1ab2ab3ab4ab5ab6ab7ab8ab9abAabBabCabDabEabFac90
ab1ab2ab3ab4ab5ab6ab7ab8ab9abAabBabCabDabEabFacA0ab1ab2ab3ab4ab5ab6ab7ab8ab9abAabBabCabDabEabF
acB0ab1ab2ab3ab4ab5ab6ab7ab8ab9abAabBabCabDabEabFacC0ab1ab2ab3ab4ab5ab6ab7ab8ab9abAabBabCabDabE
abFacD0ab1ab2ab3ab4ab5ab6ab7ab8ab9abAabBabCabDabEabFacE0ab1ab2ab3ab4ab5ab6ab7ab8ab9abAabBabCabD
abEabFacF0ab1ab2ab3ab4ab5ab6ab7ab8ab9abAabBabCabDabEabFadC00ab1ab2ab3ab4ab5ab6ab7ab8ab9abAabBabC
abDabEabFac10ab1ab2ab3ab4ab5ab6ab7ab8ab9abAabBabCabDabEabFac20ab1ab2ab3ab4ab5ab6ab7ab8ab9abAabB
abCabDabEabFac30ab1ab2ab3ab4ab5ab6ab7ab8ab9abAabBabCabDabEabFac40ab1ab2ab3ab4ab5ab6ab7ab8ab9abA
abBabCabDabEabFac50ab1ab2ab3ab4ab5ab6ab7ab8ab9abAabBabCabDabEabFac60ab1ab2ab3ab4ab5ab6ab7ab8ab9
abAabBabCabDabEabFac70ab1ab2ab3ab4ab5ab6ab7ab8ab9abAabBabCabDabEabFac80ab1ab2ab3ab4ab5ab6ab7ab8
ab9abAabBabCabDabEabFac90ab1ab2ab3ab4ab5ab6ab7ab8ab9abAabBabCabDabEabFacA0ab1ab2ab3ab4ab5ab6ab7
ab8ab9abAabBabCabDabEabFacB0ab1ab2ab3ab4ab5ab6ab7ab8ab9abAabBabCabDabEabFacC0ab1ab2ab3ab4ab5ab6
ab7ab8ab9abAabBabCabDabEabFacD0ab1ab2ab3ab4ab5apFILLERayMER CURRENCY SYMBOL RIELauDIGIT EIGHT
afFIVEadOURaeNINEaeONEadSEVENaeIXadTHREEaeWOadZEROakINDEPENDENT VOWEL LYaaYadQAAabIabQabUacEabI
aaIacOO TYPE ONEadTWOalUaaKabUaaVaeRYaaYavLETTER BAacCAabHAabOacOacDAabOacHAacKAabHAabOacOacLA
abOacMOacNGOacNOacOabYOadPHAabOacOacQAacROacSAabHAacSOadTAabHAabOacOabTHAabOaeVOacYOajSIGN AHSDA
aeTTHACANahVAKRAHASANYAanBANTOCaeRIYOOSANaiTHAMASATajEYYALagCAMNUC PII KUUHaoOENGafKAKABATagHAN
adOOMUUTahLEK TOOahMUUSIKATOANalNIKAHITahPHNAEK MUANalREAHMUKagOBATafSAMYOK SANNYAanTOANDAKHIAT
akRIISAPahVIRIAMagYUUKALEAPINTUarYMBOL BEI KOETaeROCagUON KOETaeROCaiDAP KOETaeROCae-BEI KOET
aeROCagUON KOETaeROCaiMUOY KOETaeROCaiPII KOETaeROCagRAM KOETaeROCamLEK ATTAK BEIacUONaeMUOY
aePIIacRAMaa-BEIacUONaeMUOYaePIIaiSONanMUOY KOETaeROCaiPATHAMASATajII KOETaeROCagRAM KOETaeROC
ae-BEI KOETaeROCagUON KOETaeROCaiMUOY KOETaeROCaiPII KOETaeROCamTUTEYASATaqVOWEL INHERENT AAabQ
alSIGN AAabEabIabUacEabIaaEabIacOEabOacUaaAabUacYaaAabYarOJKI ABBREVIATION SIGNarDANDA
aeOUBLE DANDAafSECTION MARKatLETTER AaaAabIabUacBAabBAacHAadCAabHAadDAabDAabDAacHAadHAadEabGA
abGAacHAadHAacIabJAabJAadKAabHAadLAabLAadMAacNAabGAacNAacYAadOabPAabHAadRAacSAacTAabHAacTAabHA
aeUabVAacYAajSECTION MARKalIGN ANUSVARAaiNUKTAafSHADDAafUKUNafVIRAMAalVOWEL SIGN AAabIabUacEabI
aaIacOabUamWORD SEPARATORatUDAWADI DIGIT EIGHTafFIVEadOURaeNINEaeONEadSEVENaeIXadTHREEaeWOadZERO
akLETTER AaaAabIabUacBAabBAacHAadCAabHAadDAabDAabDAacHAadHAadEabGAabGAacHAadHAacIaaIacJAabHAacJA
adKAabHAadLAacMAacNAabGAacNAacYAadOabPAabHAadRAabRAadSAabHAadTAabHAacTAabHAaeUaaUacVAacYA
ajSIGN ANUSVARAaiNUKTAafVIRAMAalVOWEL SIGN AAabIabUacEabIaaIacOabUaaUawIMONOaeP SIGNagSSaa MARK
afING CAT FACE WITH CLOSED EYESazFACEaa WITH CLOSED EYESalSMILING EYESbcTEacWIFRUIT
aiNEELING PERSONanOTadOALAadREAN STANDARD SYMBOLavRONOSagL B BAR SYMBOLanAB COATafEL
adCROSSE STICK AND BALLavDDERadY BEETLEajNGUAGE TAGakO CANCELLATION MARKarDIGIT EIGHTafFIVEadOUR
aeNINEaeONEadSEVENaeIXadTHREEaeWOadZEROakELLIPSISaiHO MOacNOafKO LAafLETTER BOacCOacDOacFO FAY
acONadSUNGaeTAMagHO SUNGaeTAMagKHMU GOacNYOagO SUNGaeTAMagOacLOaa LINGadOOTahMOacNGOacOabYOadO
abPALI BHAadCHAadDDAabHAadHAadGHAadJHAadLLAadNNAacYAadTTAabHAaiHO SUNGaeTAMagOacROacSANSKRIT SHA
acSAalO SUNGaeTAMagTHO SUNGaeTAMagOacWOacYOajNIGGAHITAajSEMIVOWEL SIGN LOacNYOarIGN PALI VIRAMA
aqTONE MAI CATAWAagEKacTHOacIalVOWEL SIGN AaaAabIabMabYacEaaIacIaaIacMAI KANacONahOabUaaUacYaaY
apRGE BLUE CIRCLEagDIAMONDahSQUAREakROWN CIRCLEagSQUAREamCIRCLEagDOWN TACKajGREEN CIRCLEagSQUARE
amLEFT TRIANGLE OPERATORawONE DOT OVER TWO DOTS PUNCTUATIONbdRING OVER TWO RINGS PUNCTUATION
biRANGE CIRCLEagDIAMONDahSQUAREanPURPLE CIRCLEagSQUAREanRED CIRCLEagSQUARE
akTRIPLE VERTICAL BAR OPERATORbbWO DOTS OVER ONE DOT PUNCTUATION
bdRINGS OVER ONE RING PUNCTUATIONbjUP TACKahYELLOW CIRCLEagSQUAREaoR THANaa OR EQUAL TOauI SIGN
ahST QUARTER MOONaa SYMBOLagWITH FACEazTIN CAPITAL LETTER Aaa WITH ACUTEafBREVEaa AND ACUTE
afDOT BELOWajGRAVEafHOOK ABOVEakTILDEapCARONaeIRCUMFLEXaa AND ACUTEafDOT BELOWajGRAVE
afHOOK ABOVEakTILDEauDIAERESISaa AND MACRONatOT ABOVEaa AND MACRONaqBELOWahUBLE GRAVEamGRAVE
afHOOK ABOVEakINVERTED BREVEaoMACRONagOGONEKagRING ABOVEaa AND ACUTEapBELOWakSTROKEagTILDEalAabE
aa WITH ACUTEafMACRONanFRICAN DaiLPHAaeNGLICANA WakOabUabVaa WITH HORIZONTAL BARavYacB
aa WITH DOT ABOVEafBELOWajFLOURISHaiHOOKaeLINE BELOWakSTROKEagTOPBARamETAadROKEN LaiC
aa WITH ACUTEafBARadCARONaeEDILLAaa AND ACUTEaqIRCUMFLEXakDOT ABOVEajHOOKaePALATAL HOOKamSTROKE
amHIacLOSED INSULAR GapONacUATRILLOaa WITH COMMAauDaa WITH CARONaeEDILLAagIRCUMFLEX BELOW
aqDOT ABOVEafBELOWajHOOKaeLINE BELOWakSHORT STROKE OVERLAYatMALL LETTER Zaa WITH CARONayTROKE
agTOPBARamZaa WITH CARONanEaa WITH ACUTEafBREVEafCARONaeEDILLAaa AND BREVEaqIRCUMFLEX
aa AND ACUTEafDOT BELOWajGRAVEafHOOK ABOVEakTILDEajBELOWaqDIAERESISaiOT ABOVEafBELOWahUBLE GRAVE
amGRAVEafHOOK ABOVEakINVERTED BREVEaoMACRONaa AND ACUTEafGRAVEaqOGONEKagSTROKEagTILDEaa BELOW
arGYPTOLOGICAL AINacLEFarNGacSHacTaaHacZHaa REVERSEDaiWITH CARONaoFaa WITH DOT ABOVEajHOOK
aeSTROKEanGaa WITH ACUTEafBREVEafCARONaeEDILLAagIRCUMFLEXakDOT ABOVEajHOOKaeMACRON
agOBLIQUE STROKEaoSTROKEamAMMAaeHAacLOTTAL AabIabSTOPaeUajHaa WITH BREVE BELOWalCARONaeEDILLA
agIRCUMFLEXakDESCENDERaiIAERESISaiOT ABOVEafBELOWajHOOKaeSTROKEamALF HafENGadWAIRafI
aa WITH ACUTEafBREVEafCARONaeIRCUMFLEXakDIAERESISaa AND ACUTEasOT ABOVEafBELOWahUBLE GRAVE
amGRAVEafHOOK ABOVEakINVERTED BREVEaoMACRONagOGONEKagSTROKEagTILDEaa BELOWarNSULAR DabFabGabRabS
abTaiOTAadSacJaa WITH CIRCUMFLEXajROSSED-TAILamSTROKEanKaa WITH ACUTEafCARONaeEDILLAahDESCENDER
aiIAGONAL STROKEaoOT BELOWajHOOKaeLINE BELOWakOBLIQUE STROKEaoSTROKEaa AND DIAGONAL STROKEbhL
aa WITH ACUTEafBARacELTaeCARONaeEDILLAagIRCUMFLEX BELOWaqDOT BELOWaa AND MACRONasUBLE BAR
akHIGH STROKEalLINE BELOWakMIDDLE DOTadTILDEamSMALL LETTER JanTROKEamJacMaa WITH ACUTE
afDOT ABOVEafBELOWajHOOKakIDDLE SCOTS Sai-WELSH LLacVaoNaa WITH ACUTEafCARONaeEDILLA
agIRCUMFLEX BELOWaqDESCENDERaiOT ABOVEafBELOWajGRAVEafLEFT HOOKaiINE BELOWajONG RIGHT LEG
aoOBLIQUE STROKEaoSMALL LETTER JaoTILDEalJacOaa WITH ACUTEafBREVEafCARONaeIRCUMFLEXaa AND ACUTE
afDOT BELOWajGRAVEafHOOK ABOVEakTILDEauDIAERESISaa AND MACRONatOT ABOVEaa AND MACRONaqBELOW
ahUBLE ACUTEafGRAVEamGRAVEafHOOK ABOVEaiRNaa AND ACUTEafDOT BELOWajGRAVEafHOOK ABOVEakTILDE
aoINVERTED BREVEaoLONG STROKE OVERLAYarOPaeMACRONaa AND ACUTEafGRAVEapIDDLE TILDEamOGONEK
aa AND MACRONarSTROKEaa AND ACUTEaqTILDEaa AND ACUTEafDIAERESISajMACRONawIabLD POLISH OalMEGAaeO
abPEN EabOafUacPaa WITH ACUTEafDOT ABOVEajFLOURISHaiHOOKaeSQUIRREL TAILamTROKE
aa THROUGH DESCENDERbfQaa WITH DIAGONAL STROKEapSTROKE THROUGH DESCENDERbfRaa ROTUNDA
ahWITH ACUTEafCARONaeEDILLAahDOT ABOVEafBELOWaa AND MACRONasUBLE GRAVEamINVERTED BREVE
aoLINE BELOWakOBLIQUE STROKEaoSTROKEagTAILakEVERSED C WITH DOTakEabHALF HagOPEN EaoUM ROTUNDAalS
aa WITH ACUTEaa AND DOT ABOVEatCARONaa AND DOT ABOVEasEDILLAagIRCUMFLEXajOMMA BELOWalDOT ABOVE
afBELOWaa AND DOT ABOVEaxHOOKaeOBLIQUE STROKEaoSHORT STROKE OVERLAYatWASH TAILaqALTILLOahCHWA
adRIPT GahHARP SagIGMOID SaiMALL CAPITAL IajQ WITH HOOK TAILawTaa WITH CARONaeEDILLA
agIRCUMFLEX BELOWapOMMA BELOWalDIAGONAL STROKEaoOT ABOVEafBELOWajHOOKaeLINE BELOW
akRETROFLEX HOOKaoSTROKEamHORNaa WITH STROKEaa THROUGH DESCENDERbiONE FIVEaeSIXadTWOahRESILLO
ahURNED AaaLPHAafHabINSULAR GajKabLabMabTabVahZacUaa BARadWITH ACUTEafBREVEafCARONaeIRCUMFLEX
aa BELOWaqDIAERESISaa AND ACUTEafCARONafGRAVEafMACRONakBELOWaoOT BELOWahUBLE ACUTEafGRAVEamGRAVE
afHOOK ABOVEaiRNaa AND ACUTEafDOT BELOWajGRAVEafHOOK ABOVEakTILDEaoINVERTED BREVEaoMACRON
aa AND DIAERESISauOGONEKagRING ABOVEakSTROKEagTILDEaa AND ACUTEajBELOWarPSILONahV
aa WITH DIAGONAL STROKEaoOT BELOWajHOOKaeTILDEalENDadISIGOTHIC ZalOLAPUK AEacOEacUEajYacW
aa WITH ACUTEafCIRCUMFLEXakDIAERESISaiOT ABOVEafBELOWajGRAVEafHOOKakYNNaeXaa WITH DIAERESIS
aiOT ABOVEaqYaa WITH ACUTEafCIRCUMFLEXakDIAERESISaiOT ABOVEafBELOWajGRAVEafHOOKaa ABOVEakLOOP
aeMACRONagSTROKEagTILDEalOGHaeZaa WITH ACUTEafCARONaeIRCUMFLEXakDESCENDERaiOT ABOVEafBELOWajHOOK
aeLINE BELOWakPALATAL HOOKamSTROKEafWASH TAILaxIGATURE IJacOEasROSSafEPIGRAPHIC LETTER ARCHAIC M
ajI LONGAagNVERTED MakREVERSED FabPakSIDEWAYS IbcLETTER AINacLVEOLAR CLICKaoBIDENTAL PERCUSSIVE
arLABIAL CLICKafPERCUSSIVEatDENTAL CLICKamGLOTTAL STOPaa WITH STROKEayINVERTED GLOTTAL STOP
aa WITH CURLaeSTROKEbhLATERAL CLICKanPHARYNGEAL VOICED FRICATIVEbbRETROFLEX CLICK
aa WITH RETROFLEX HOOKbhVERSED ESH LOOPaiGLOTTAL STOP WITH STROKEbhSINOLOGICAL DOT
aoMALL CAPITAL AaaEacBaaARRED BaiCabDabEaaTHacZHadFabGaa WITH HOOKalHabIaaNVERTED RakJabKabL
aa WITH BELTaeSTROKEanMabNabOaaEabPEN OafUacPabQabRaa WITH RIGHT LEGapEVERSED NabRajUMadSabT
aaURNED EabGabKabMabRaiUabVabWabYabZaoTRETCHED Caa WITH CURLavTWO WITH STROKE
apVOICED LARYNGEAL SPIRANTayWYNNaeYRajSMALL CAPITAL LETTER I WITH STROKEanU WITH STROKE
bcLETTER Aaa REVERSED-SCHWAaoWITH ACUTEafBREVEaa AND ACUTEafDOT BELOWajGRAVEafHOOK ABOVEakTILDE
apCARONaeIRCUMFLEXaa AND ACUTEafDOT BELOWajGRAVEafHOOK ABOVEakTILDEauDIAERESISaa AND MACRON
atOT ABOVEaa AND MACRONaqBELOWahUBLE GRAVEamGRAVEafHOOK ABOVEakINVERTED BREVEaoMACRONagOGONEK
agRETROFLEX HOOKanIGHT HALF RINGanNG ABOVEaa AND ACUTEapBELOWakSTROKEagTILDEalAabEaa WITH ACUTE
afMACRONanLPHAaa WITH RETROFLEX HOOKayNGLICANA WakOabUabVaa WITH HORIZONTAL BARavYacB
aa WITH DOT ABOVEafBELOWajFLOURISHaiHOOKaeLINE BELOWakMIDDLE TILDEamPALATAL HOOKamSTROKEagTOPBAR
amARRED ALPHAafEabOagSELINE ESHalETAadLACKLETTER EabOaa WITH STROKEayOTTOM HALF OamROKEN LaiC
aa WITH ACUTEafBARadCARONaeEDILLAaa AND ACUTEaqIRCUMFLEXajURLaeDOT ABOVEajHOOKaePALATAL HOOK
amRETROFLEX HOOKaoSTROKEamHIaa WITH LOW LEFT SERIFakRIGHT RINGawLOSED INSULAR GajOMEGAaePEN E
agREVERSED OPEN EavONacUATRILLOaa WITH COMMAauDaa WITH CARONaeEDILLAagIRCUMFLEX BELOWapURL
aeDOT ABOVEafBELOWajHOOKaa AND TAILanLINE BELOWakMIDDLE TILDEamPALATAL HOOK
amSHORT STROKE OVERLAYatTROKEagTAILadOPBARamB DIGRAPHajELTAadZH DIGRAPHaa WITH PALATAL HOOK
amRETROFLEX HOOKbfOTLESS IabJaa WITH STROKEaa AND HOOKbcUBLE Raa WITH CROSSED-TAILatTHORNafWYNN
akUMacZaa DIGRAPHaa WITH CURLaeRETROFLEX HOOKbbWITH CARONanEaa WITH ACUTEafBREVEafCARONaeEDILLA
aa AND BREVEaqIRCUMFLEXaa AND ACUTEafDOT BELOWajGRAVEafHOOK ABOVEakTILDEajBELOWaqDIAERESIS
aiOT ABOVEafBELOWahUBLE GRAVEamFLOURISHaiGRAVEafHOOK ABOVEakINVERTED BREVEaoMACRONaa AND ACUTE
afGRAVEaqNOTCHafOGONEKagRETROFLEX HOOKaoSTROKEagTILDEaa BELOWarGYPTOLOGICAL AINacLEFarNG
aa WITH CROSSED-TAILamPALATAL HOOKauSHaa WITH CURLaeDOUBLE BARaa AND CURLatPALATAL HOOK
amRETROFLEX HOOKawTaaHacZHaa REVERSEDaiWITH CARONaeURLaePALATAL HOOKamRETROFLEX HOOKaoTAILanF
aa WITH DOT ABOVEajHOOKaeMIDDLE TILDEamPALATAL HOOKamSTROKEamENG DIGRAPHaa WITH TRILLaxG
aa WITH ACUTEafBREVEafCARONaeEDILLAagIRCUMFLEXakDOT ABOVEajHOOKaeMACRONagOBLIQUE STROKE
aoPALATAL HOOKamSTROKEamAMMAaeHAacLOTTAL AabIabSTOPaeUajHaa WITH BREVE BELOWalCARONaeEDILLA
agIRCUMFLEXakDESCENDERaiIAERESISaiOT ABOVEafBELOWajHOOKaeLINE BELOWakPALATAL HOOKamSTROKEamALF H
afENGaa WITH HOOKanVacIaa WITH ACUTEafBREVEafCARONaeIRCUMFLEXakDIAERESISaa AND ACUTEasOT BELOW
ahUBLE GRAVEamGRAVEafHOOK ABOVEakINVERTED BREVEaoMACRONagOGONEKagRETROFLEX HOOKaoSTROKE
aa AND RETROFLEX HOOKazTILDEaa BELOWarNSULAR DabFabGabRabSabTahVERTED ALPHAafOEakOTA
aa WITH STROKEanIFIED EajSacJaa WITH CARONaeIRCUMFLEXajROSSED-TAILamSTROKEanKaa WITH ACUTE
afCARONaeEDILLAahDESCENDERaiIAGONAL STROKEaoOT BELOWajHOOKaeLINE BELOWakOBLIQUE STROKE
aoPALATAL HOOKamSTROKEaa AND DIAGONAL STROKEbgRAadLaa WITH ACUTEafBARacELTaa AND PALATAL HOOK
avCARONaeEDILLAagIRCUMFLEX BELOWapURLaeDOT BELOWaa AND MACRONasUBLE BARadMIDDLE TILDEatFISHHOOK
aiHIGH STROKEalINVERTED LAZY SapLINE BELOWakMIDDLE DOTadRINGaeTILDEamPALATAL HOOK
amRETROFLEX HOOKaa AND BELTaxSTROKEamAMBDA WITH STROKEarENIS FafZHaa WITH RETROFLEX HOOKaxJ
abONG Saa WITH DIAGONAL STROKEaoOT ABOVEajHIGH STROKEawS DIGRAPHajUMacZ DIGRAPHakMaa WITH ACUTE
afCROSSED-TAILamDOT ABOVEafBELOWajHOOKaeMIDDLE TILDEamPALATAL HOOKasIDDLE SCOTS Sai-WELSH LLacV
anUMadNaa PRECEDED BY APOSTROPHEawWITH ACUTEafCARONaeEDILLAagIRCUMFLEX BELOWapROSSED-TAILalURL
aeDESCENDERaiOT ABOVEafBELOWajGRAVEafLEFT HOOKaiINE BELOWajONG RIGHT LEGaoMIDDLE TILDE
amOBLIQUE STROKEaoPALATAL HOOKamRETROFLEX HOOKaoTILDEalJabUMadOaa WITH ACUTEafBREVEafCARON
aeIRCUMFLEXaa AND ACUTEafDOT BELOWajGRAVEafHOOK ABOVEakTILDEauDIAERESISaa AND MACRONatOT ABOVE
aa AND MACRONaqBELOWahUBLE ACUTEafGRAVEamGRAVEafHOOK ABOVEaiRNaa AND ACUTEafDOT BELOWajGRAVE
afHOOK ABOVEakTILDEaoINVERTED BREVEaoLONG STROKE OVERLAYarOPacW RING INSIDEapMACRONaa AND ACUTE
afGRAVEaqOGONEKaa AND MACRONarRETROFLEX HOOKaoSTROKEaa AND ACUTEaqTILDEaa AND ACUTEafDIAERESIS
ajMACRONawIabLD POLISH OalMEGAaeOabPEN Eaa WITH RETROFLEX HOOKavOaa WITH RETROFLEX HOOKaoSTROKE
amEagUacPaa WITH ACUTEafDOT ABOVEajFLOURISHaiHOOKaeMIDDLE TILDEamPALATAL HOOKamSQUIRREL TAIL
amTROKEaa THROUGH DESCENDERbeHIadQaa WITH DIAGONAL STROKEapHOOKaa TAILajSTROKE THROUGH DESCENDER
beP DIGRAPHakRaa ROTUNDAahWITH ACUTEafCARONaeEDILLAagROSSED-TAILamDOT ABOVEafBELOWaa AND MACRON
asUBLE GRAVEamFISHHOOKaa AND MIDDLE TILDEamPALATAL HOOKazINVERTED BREVEaoLINE BELOWajONG LEG
aiMIDDLE TILDEamOBLIQUE STROKEaoPALATAL HOOKamSTROKEagTAILafOUT HANDLEapAMS HORNaiEVERSED C
aa WITH DOTakEaaNGadHALF HagKabOPEN Eaa WITH HOOKaeRETROFLEX HOOKbaR WITH FISHHOOKapSCRIPT GaqUM
aa ROTUNDAalSaa WITH ACUTEaa AND DOT ABOVEatCARONaa AND DOT ABOVEasEDILLAagIRCUMFLEXajOMMA BELOW
akURLaeDOT ABOVEafBELOWaa AND DOT ABOVEaxHOOKaeMIDDLE TILDEamOBLIQUE STROKEaoPALATAL HOOK
amSHORT STROKE OVERLAYatWASH TAILaqAKHA YATahLTILLOahCHWAaa WITH HOOKaeRETROFLEX HOOKaxRIPT G
aa WITH CROSSED-TAILatRaa WITH RINGarHARP SagIDEWAYS DIAERESIZED UanOaa WITH STROKEamPEN O
agTURNED MaiUaiGMOID SaiQUAT REVERSED ESHarTIRRUP RajTaa WITH CARONaeEDILLAagIRCUMFLEX BELOW
apOMMA BELOWakURLaeDIAERESISagGONAL STROKEaoOT ABOVEafBELOWajHOOKaa AND RETROFLEX HOOK
axLINE BELOWakMIDDLE TILDEamPALATAL HOOKamRETROFLEX HOOKaoSTROKEamAILLESS PHI
alC DIGRAPH WITH CURLatESH DIGRAPHaa WITH PALATAL HOOKamRETROFLEX HOOKbfH WITH STRIKETHROUGH
atORNaa WITH STROKEaa THROUGH DESCENDERbiONE FIVEaeSIXadTWOagP HALF OajRESILLOahS DIGRAPH
aa WITH RETROFLEX HOOKbdUMabRNED AaaEabLPHAafDELTAafEabGabHaa WITH FISHHOOKaa AND TAILayI
aaNSULAR GajKabLabMaa WITH LONG LEGapO OPEN-Oaa WITH STROKEatEaa WITH HORIZONTAL STROKEarSTROKE
anPEN EagRaa WITH HOOKaeLONG LEGaa AND RETROFLEX HOOKbbMIDDLE TILDEamPALATAL HOOKamTAILalT
aa WITH CURLalUIacVabWabYaa WITH BELTarZacUaa BARaa WITH SHORT RIGHT LEGayWITH ACUTEafBREVE
afCARONaeIRCUMFLEXaa BELOWaqDIAERESISaa AND ACUTEafCARONafGRAVEafMACRONakBELOWaoOT BELOW
ahUBLE ACUTEafGRAVEamGRAVEafHOOK ABOVEaiRNaa AND ACUTEafDOT BELOWajGRAVEafHOOK ABOVEakTILDE
aoINVERTED BREVEaoLEFT HOOKajMACRONaa AND DIAERESISauOGONEKagRETROFLEX HOOKanING ABOVE
akSHORT RIGHT LEGaoTROKEagTILDEaa AND ACUTEajBELOWarEabIabMabOabPSILONaa WITH STROKEatV
aa WITH CURLaeDIAGONAL STROKEaoOT BELOWajHOOKaePALATAL HOOKamRIGHT HOOKakTILDEalENDadISIGOTHIC Z
alOLAPUK AEacOEacUEajYacWaa WITH ACUTEafCIRCUMFLEXakDIAERESISaiOT ABOVEafBELOWajGRAVEafHOOK
aeRING ABOVEarXaa WITH DIAERESISaiOT ABOVEajLONG LEFT LEGaa AND LOW RIGHT RINGasWITH SERIF
awW RIGHT RINGaoPALATAL HOOKatYaa WITH ACUTEafCIRCUMFLEXakDIAERESISaiOT ABOVEafBELOWajGRAVE
afHOOKaa ABOVEakLOOPaeMACRONagRING ABOVEakSHORT RIGHT LEGaoTROKEagTILDEalOGHaeZaa WITH ACUTE
afCARONaeIRCUMFLEXajURLaeDESCENDERaiOT ABOVEafBELOWajHOOKaeLINE BELOWakMIDDLE TILDE
amPALATAL HOOKamRETROFLEX HOOKaoSTROKEafWASH TAILaxIGATURE FFaaIabLacIabLacIJacLONG S TaiOEacST
aqUBSCRIPT SMALL LETTER AabEabHabIabJabKabLabMabNabOabPabRabSaaCHWAafTabUabVabX
bdEAF FLUTTERING IN WINDatY GREENajDGERaeFT AND LOWER AND RIGHT TRIANGULAR THREE QUARTERS BLOCK
bpONE EIGHTH BLOCKawRIGHT DOUBLE TURNSTILEaqTACKadRIANGULAR HALF BLOCK
bbUPPER AND RIGHT TRIANGULAR THREE QUARTERS BLOCKbpONE EIGHTH BLOCKayGER BUBBLEajLE BRACKET
aa WITH DOTavRC LESS-THAN BRACKETatROW WITH CIRCLED PLUSamSMALL CIRCLE
axBARB DOWN RIGHT BARB DOWN HARPOONamUP HARPOONbaUP RIGHT BARB DOWN HARPOONamUP HARPOON
bcLACK LENTICULAR BRACKETasTORTOISE SHELL BRACKETbcCEILINGagLOSED ENTRYalORNER BRACKET
anURLY BRACKETaa LOWER HOOKakMIDDLE PIECEamUPPER HOOKayDOTTED SUBSTITUTION BRACKET
azUBLE ANGLE BRACKETanPARENTHESISalQUOTATION MARKaoWIGGLY FENCEatFISH TAILahVE EIGHTHS BLOCK
arLOORafHALF BLACK CIRCLEagSTARaiOCKafCIRCLEaa WITH DOTadFOUR DOTSajTHREE DOTSajWO DOTSauFOLDER
agINVERSE MEDIUM SHADE AND RIGHT HALF BLOCKbpMEDIUM SHADEamRUNNING MANaoND TELEPHONE RECEIVER
axLOW PARAPHRASE BRACKETavUGGAGEahMULTIMAPaiNORMAL FACTOR SEMIDIRECT PRODUCTbgONE EIGHTH BLOCK
amQUARTER BLOCKaqUTER JOINakPARENTHESISaa EXTENSIONajLOWER HOOKakUPPER HOOK
awRAISED OMISSION BRACKETawIGHT ARROWaa THROUGH SMALL CIRCLEauWITH DOUBLE VERTICAL STROKE
awSTROKEagVERTICAL STROKEbaBLACK ARROWalDOUBLE ARROWaa WITH STROKEagVERTICAL STROKE
bhOPEN-HEADED ARROWarSANS-SERIF ARROWaqTRIANGLE-HEADED ARROWavWAVE ARROWajHITE ARROW
arS-SHAPED BAG DELIMITERavEMIDIRECT PRODUCTaqVEN EIGHTHS BLOCKasIDEWAYS U BRACKET
aqNGLE QUOTATION MARKauPEECH BUBBLEamQUARE BRACKETaa EXTENSIONajLOWER CORNERamUPPER CORNER
amWITH DOUBLE STROKEanQUILLafSTROKEagTICK IN BOTTOM CORNERanTOP CORNERasUNDERBAR
bbUBSTITUTION BRACKETauTACKadHIRD WHITE RIGHT POINTING INDEXbeOUGHT BUBBLEamREE EIGHTHS BLOCK
anQUARTERS BLOCKatORTOISE SHELL BRACKETavRANSPOSITION BRACKETatIANGLE BESIDE VERTICAL BAR
awULAR ONE QUARTER BLOCKbcVERTICAL BAR WITH QUILLanOX LINEarWHITE CORNER BRACKETanURLY BRACKET
anLENTICULAR BRACKETasPARENTHESISalSQUARE BRACKETaoTORTOISE SHELL BRACKETbbIGGLY FENCE
alRITING HANDan-FACING ARMENIAN ETERNITY SIGNawFISTaeSVASTI SIGNaa WITH DOTS
bcHANDED INTERLACED PENTAGRAMbbPOINTING ANGLE BRACKETanCURVED ANGLE BRACKET
auDOUBLE ANGLE QUOTATION MARKbbMAGNIFYING GLASSazSHADED WHITE RIGHTWARDS ARROW
bcIDE ARC ANTICLOCKWISE ARROWbcTO-RIGHT EMBEDDINGajISOLATEahMARKaeOVERRIDEasWARDS ARROW
aa ABOVE ALMOST EQUAL TOapREVERSE ALMOST EQUAL TOapTILDE OPERATORawSHORT RIGHTWARDS ARROW
awTILDE OPERATORatND UPPER AND LOWER ONE EIGHTH BLOCKbkFROM BARaa TO BLACK DIAMOND
azOVER RIGHTWARDS ARROWavTHROUGH LESS-THANajSUBSETagXaiO BARaa OVER RIGHTWARDS ARROW TO BAR
bfLACK DIAMONDaqWITH DOTTED STEMajUBLE VERTICAL STROKEawEQUILATERAL ARROWHEADavHOOK
aeLARGE TRIANGLE ARROWHEADaxOOPaeMEDIUM TRIANGLE ARROWHEADazNOTCHED TAILamPLUS BELOW
akSMALL EQUILATERAL ARROWHEADavTRIANGLE ARROWHEADaxTROKEagTAILaa WITH DOUBLE VERTICAL STROKE
awVERTICAL STROKEayIP DOWNWARDSajUPWARDSalVERTICAL STROKEav-TAIL
akBACK-TILTED SHADOWED WHITE ARROWbfLACK ARROWafCIRCLED WHITE ARROWayOTTOM-SHADED WHITE ARROW
azCOMPRESSED ARROWaqDASHED ARROWalOUBLE ARROWaa FROM BARaiWITH STROKEagVERTICAL STROKEav-TAIL
akDASH ARROWarFINGER-POST ARROWaqRONT-TILTED SHADOWED WHITE ARROWbhHAND
acRPOON OVER RIGHTWARDS HARPOONaxWITH BARB DOWN ABOVE RIGHTWARDS HARPOON WITH BARB DOWN
bnBELOW LONG DASHapFROM BARaiTO BARahWARDSajUP ABOVE LEFTWARDS HARPOON WITH BARB DOWNbfONG DASH
ajRIGHTWARDS HARPOON WITH BARB UPblFROM BARaiTO BARahWARDSayEAVY ARROWafCOMPRESSED ARROW
awLEFT-SHADED WHITE ARROWaxOPEN-HEADED ARROWarPAIRED ARROWSanQUADRUPLE ARROW
apRIGHT-SHADED WHITE ARROWaxOCKETagSANS-SERIF ARROWapQUARED ARROWakIGGLE ARROW
aoTOP SHADED WHITE ARROWavRIANGLE ARROWHEADak-HEADED ARROW
aa OVER RIGHTWARDS TRIANGLE-HEADED ARROWblTO BARagWITH BOLD SHAFTakDOUBLE HORIZONTAL STROKE
arVERTICAL STROKEawHEAVY SHAFTalLONG TIP DOWNWARDSajUPWARDSaqMEDIUM SHAFTamNARROW SHAFT
amVERY HEAVY SHAFTbbDASHED ARROWamPAIRED ARROWSbaPLE ARROWafDASH ARROWaqWO HEADED ARROW
an-HEADED ARROW FROM BARaiWITH DOUBLE VERTICAL STROKEawTAILaa WITH DOUBLE VERTICAL STROKE
awVERTICAL STROKEayRIANGLE ARROWHEADSatVERTICAL STROKEbaTRIPLE DASH ARROWbcWAVE ARROW
ajHITE ARROWaa WITHIN TRIANGLE ARROWHEADbtGabMONadOaaPARDafPCHA CONSONANT SIGN KaaANGaeLabMabN
aaYIN-DOahPabRabTaqDIGIT EIGHTafFIVEadOURaeNINEaeONEadSEVENaeIXadTHREEaeWOadZEROakLETTER AabBA
abLAadCAabHAadDAabDAacZAadFAabLAadGAabLAadHAabLAadJAacKAabHAacLAadLAacMAabLAadNAabGAacYAadPAabHA
acLAadRAacSAabHAadTAabHAacSAabHAadTAabHAaeVAacWAacYAajPUNCTUATION CER-WAagNYET THYOOM TA-ROL
asTA-ROLafSHOOKaa CER-WAazSIGN NUKTAafRANahUBJOINED LETTER RAacYAatVOWEL SIGN AAacEabIabOaaOacU
aaUasSS-THAN ABOVE DOUBLE-LINE EQUAL ABOVE GREATER-THANbkGREATER-THAN ABOVE DOUBLE-LINE EQUAL
bkLEFTWARDS ARROWapSIMILAR ABOVE GREATER-THANasOR EQUAL
apLANTED EQUAL ABOVE GREATER-THAN ABOVE SLANTED EQUALcfND NOT APPROXIMATE
apSINGLE-LINE NOT EQUAL TObcBUT NOT EQUAL TOafIVALENT TOavCLOSED BY CURVEaa ABOVE SLANTED EQUAL
bjEQUAL TO OR GREATER-THANayOR APPROXIMATEalEQUAL TOafIVALENT TOanGREATER-THANamSLANTED EQUAL TO
aa WITH DOT ABOVEaa RIGHTalINSIDEbiVER EQUAL TOanSIGNaeWITH CIRCLE INSIDEanDOT
adQUESTION MARK ABOVEbgVEL SLIDERalFabIBRAadGATURE OPEN ET ORNAMENTawHT CHECK MARK
akEIGHT SPOKED ASTERISKavFIVE POINTED BLACK STARasSPOKED ASTERISKatOUR POINTED BLACK CUSPaeSTAR
axGREEK CROSSalLEFT TORTOISE SHELL BRACKET ORNAMENTbkRAILadIGHT TORTOISE SHELL BRACKET ORNAMENT
blSALTIREagHADEaeIX SPOKED ASTERISKatTHREE POINTED BLACK STARaxWELVE POINTED BLACK STAR
azVERTICAL BARamWHITE SQUAREanNINGaa MOODaa BUBBLEatMBU DIGIT EIGHTafFIVEadOURaeNINEaeONEadSEVEN
aeIXadTHREEaeWOadZEROakEXCLAMATION MARKaqLETTER BAabHAadCAabHAadDAabHAadGAabHAacYANaeHAacJAabHA
adKAabHAadLAacMAacNAabGAadPAabHAadRAacSAabHAacSAadTAabHAacRAadWAacYAaaNakQUESTION MARK
anSIGN KEMPHRENGajLOOadMUKPHRENGajSA-IaiMALL LETTER ANUSVARAaiKAacLAacMAacNAabGAadPAacRAacTA
aoUBJOINED LETTER RAacWAacYAatVOWEL SIGN AaaIabUacEaaEacIabOaaOacUah-CARRIER LETTER
axITED LIABILITY SIGNauNE FEEDaeINTEGRATION NOT INCLUDING THE POLE
awWITH RECTANGULAR PATH AROUND POLEbcSEMICIRCULAR PATH AROUND POLEbuSEPARATORajTABULATIONaa SET
apAR A SIGN A028Bae100-102ag20Bad31Cae301ab2ab3ab4ab5ab6ab7ab8ab9AabBabCad10ab1ab2ab3AabBabCac4
ab5ab6ab7ab8ab9ac20ab1ab2ab3ab4ab5ab6ab7ab8ab9ac30ab1ab2ab3ab4ab5ab6ab7ab8ab9ac40ab1ab2ab3ab4ab5
ab6ab7ab8ab9ac50ab1ab2ab3ab4ab5ab6ab7ab8ab9ac60ab1ab2ab3ab4ab5ab6ab7ab8ab9ac70ab1ad400-VAS
af1-VASaf2-VASaf3-VASaf4-VASaf5-VASaf6-VASaf7-VASaf8-VASaf9-VASag10-VASaf1-VASaf2-VASaf3-VAS
af4-VASaf5-VASaf6-VASaf7-VASaf8-VASah501ab2ab3ab4ab5ab6ab8ab9ac10ab1ab2ab3ab5ab6ac20ab1ab3ab4ab5
ab6ab7ab8ab9ac30ab1ab2ab4ab5ab6ab7ab8ab9ac40ab1ab2ab5ab7ab8ab9ac50ab1ab2ab3ab4ab5ab6ab7ab9ac63
ab4ab5ab6ab8ab9ac70ab1ab2ab3ab4ab5ab6ab7ab8ab9ac80ab1ab2ab3ab4ab5ab6ab7ab8ab9ac91ab2ab4ab5ab6ab8
ad600ab1ab2ab3ab4ab6ab8ab9ac10ab1ab2ab3ab4ab5ab6ab7ab8ab9ac20ab1ab2ab3ab4ab6ab7ab8ab9ac34ab7ab8
ac40ab2ab3ab4ab5ab6ab8ab9ac51ab2ab3ab4ab5ab6ab7ab8ab9ac60ab1ab2ab3ab4ad701 Aad2 Bad3 Dad4 Ead5 F
ad6 Had7 Jad8 Kad9 Lac-2 L2ae3 L3ae4 L4ae6 L6ah10 Wad1 Xad2 Yad3 OMEGAah4 ABBaf5 BBae7 DD
af26 EYYYah32 JEag800ab1ab2ab3ab4ab5ab6ab7adB001ab2ab3ab4ab5ab6ab7ab8ab9ac10ab1ab3ab6ab7ac20ab1
aaFabMac2aaFabMac3aaMac4ab6ab7ab8ab9ac30ab1ab4ab7ab8ab9ac40ab1ab4ab5ab6ab7ab8ab9ac50ab1ab3ab4ab5
ab6ab7ab8ab9ac60ab1ab5ab6ab7ab9ac70ab3ab4ab6ab7ab8ab9ac80ab1ab2ab5ab6ab7ad118ac20ab2ab3ac31AabB
ad64ac71ac80ab8ac91amB IDEOGRAM B100 MANaf2 WOMANah4 DEERag5 EQUIDagF MAREagM STALLIONal6F EWE
afM RAMag7F SHE-GOATakM HE-GOATak8F SOWafM BOARah9F COWafM BULLai20 WHEATah1 BARLEYai2 OLIVE
ah3 SPICEah5 CYPERUSak30 OILaf1 WINEag2ac40 BRONZEai1 GOLDag2ab5 WOOLag6ac50ab1 HORNag2ab3ab4ab7
ab8ab9 CLOTHai60ab1ab2 GARMENTaj3 ARMOURai4ab5ab6ab7ab8ab9ac70ab1ab2ab3 MONTHah4ab6 TREEag7ab8
ab9ac80ab1ab2ab3ab4ab5ab9ac90ab1 HELMETak220 FOOTSTOOLal5 BATHTUBak30 SPEARah1 ARROWah2ab3 SWORD
ah4ab6ac40 WHEELED CHARIOTar1 CHARIOTaj2 CHARIOT FRAMEap3 WHEELah5ab6ab8ab9ac51ab2ab3ab4 DARTag5
ab6ab7ab8ab9aeVESSEL B155ad200ab1ab2ab3ab4ab5ab6ab7ab8ab9ac10ab1ab2ab3ab4ab5ab6ab7ab8ab9ac21ab2
ab6ab7ab8ab9ac50ad305auMONOGRAM B127 KAPOag8 KANAKOaj33 AREPAah5 MERIah56 TURO2aj247 DIPTE
atSYLLABLE B001 DAae2 ROae3 PAae4 TEae5 TOae6 NAae7 DIae8 Aad9 SEaf10 Uad1 POae2 SOae3 MEae4 DO
ae5 MOae6 QAae7 ZAaf20 ZOae1 QIae3 MUae4 NEae5 A2ae6 RUae7 REae8 Iad9 PU2ag30 NIae1 SAae2 QO
ae3 RA3af6 JOae7 TIae8 Ead9 PIaf40 WIae1 SIae2 WOae3 A3ae4 KEae5 DEae6 JEae8 NWAag50 PUae1 DU
ae2 NOae3 RIae4 WAae5 NUae7 JAae8 SUae9 TAaf60 RAae1 Oad2 PTEaf5 JUae6 TA2af7 KIae8 RO2af9 TU
af70 KOae1 DWEaf2 PEae3 MIae4 ZEae5 WEae6 RA2af7 KAae8 QEaf80 MAae1 KUae5 AUae7 TWEag90 DWO
af1 TWOapMBOL B018ab9ac22ac34ac47ab9ac56ac63ab4ac79ac82ab3ab6ab9arK SYMBOLahED PAPERCLIPS
apON FACEahPSaaTICKagRA SIGNahSU LETTER AaaEacBAacCAabHAadDAabZAadEaaUacFAacGAabHAadHAabHAadI
abJAacKAabHAadLAacMAacNAabGAadOaaEacPAabHAadSAabHAadTAabHAacONE MYA BOacCYAadJEUadNAacTIagNA PO
ajSAabHAaeUaaEabHacWAacXAacYAabHAadZAabHAakPUNCTUATION COMMAafFULL STOPayVRE TOURNOIS SIGNarZARD
afLAMAaeOBSTERafCKaa WITH INK PENanING-SHIFT ONEadZEROaqGICAL ANDaa WITH DOT ABOVEahUBLE OVERBAR
ahUNDERBARapHORIZONTAL DASHapMIDDLE STEMalUNDERBARarORaa OVERLAPPING LOGICAL ANDaxWITH DOT ABOVE
ahUBLE OVERBARahUNDERBARapHORIZONTAL DASHapMIDDLE STEMazLLIPOP
agNG DASH FROM LEFT MEMBER OF DOUBLE VERTICALbnIVISIONahRUMaeLEFT RIGHT ARROWafDOUBLE ARROW
asTACKafWARDS ARROWaa FROM BARaoDOUBLE ARROWaa FROM BARavSQUIGGLE ARROWayRIGHT TACKafWARDS ARROW
aa FROM BARaoDOUBLE ARROWaa FROM BARavSQUIGGLE ARROWbcTION BOTTLEakUSadUDLY CRYING FACE
aqVE HOTELafLETTERajW ASTERISKaiBATTERYagRIGHTNESS SYMBOLarDOUBLE PRIME QUOTATION MARKbbKAVYKA
aa WITH DOTapLINEafER BLADE SCISSORSaoFIVE EIGHTHS BLOCKasHALF BLOCKafCIRCLE
agINVERSE WHITE CIRCLEauMEDIUM SHADEarLEFT BALLPOINT PEN
amLOCK DIAGONAL LOWER MIDDLE LEFT TO LOWER CENTREagRIGHTbgUPPER CENTRE TO LOWER MIDDLE RIGHT
amRIGHTalUPPER MIDDLE RIGHTbcLEFT TO LOWER CENTREagMIDDLE RIGHTasUPPER MIDDLE RIGHT
baMIDDLE LEFT TO LOWER CENTREagMIDDLE RIGHTamRIGHTbvCRAYONagFOUNTAIN PENamPAINTBRUSHajENCIL
agQUADRANT CIRCULAR ARCavSEMICIRCULAR ANTICLOCKWISE ARROWbgTRIANGLEacULAR MEDIUM SHADE
bcONE EIGHTH BLOCKamQUARTER BLOCKarRIGHT BLOCK DIAGONAL LOWER CENTRE TO LOWER MIDDLE RIGHT
asUPPER MIDDLE RIGHTamRIGHTavLEFT TO LOWER MIDDLE RIGHTasUPPER CENTREagMIDDLE RIGHT
baMIDDLE LEFT TO UPPER CENTREagMIDDLE RIGHTamRIGHTbgUPPER MIDDLE LEFT TO UPPER CENTREagRIGHT
bvCORNER WITH DOTapDROP-SHADOWED WHITE SQUAREbaPENCILagQUADRANT CIRCULAR ARC
avSEMICIRCULAR CLOCKWISE ARROWbbHADOWED WHITE CIRCLEagSQUAREavTRIANGLEacULAR MEDIUM SHADE
bdSEVEN EIGHTHS BLOCKatTHREE EIGHTHS BLOCKanQUARTERS BLOCKatRIANGULAR ONE QUARTER BLOCKbgZENGE
aa DIVIDED BY HORIZONTAL RULEbhREabIabMabOacUGGAGEafNGSaeYCIAN LETTER AaaNacBaaHacDabEaaNacGabH
abIabJabKaaKacLabMaaMacNaaNacPabQabRabSabTaaHabTacUabWabXabZanDIAN LETTER AaaNacBabCabDabEaaNacF
abGabIabKabLaaYacMabNaaNacOabQabRabSaaSacTaaTacUabVabYaiTRIANGULAR MARKauING FACEakMACRONaeGE
abIC WANDahNETaeHAJANI ABBREVIATION SIGNarLETTER AabBAabHAadCAabHAadDAabDAabHAadHAadEabGAabHA
adHAacIabJAabHAadKAabHAadLAacMAacNAabNAacYAadOabPAabHAadRAabRAadSAacTAabHAacTAabHAaeUabVA
aiIGATURE SHRIanSECTION MARKalIGN NUKTAaqJONG TILE AUTUMNagBACKacMBOOagCHRYSANTHEMUManEAST WIND
aiIGHT OF BAMBOOSahCHARACTERSajIRCLESaqFIVE OF BAMBOOSahCHARACTERSajIRCLESaoOUR OF BAMBOOS
ahCHARACTERSajIRCLESapGREEN DRAGONamJOKERafNINE OF BAMBOOSahCHARACTERSajIRCLESaoORTH WIND
akONE OF BAMBOOSahCHARACTERSajIRCLESanRCHIDagPLUMaeRED DRAGONakSEVEN OF BAMBOOSahCHARACTERS
ajIRCLESapIX OF BAMBOOSahCHARACTERSajIRCLESanOUTH WINDajPRINGafUMMERagTHREE OF BAMBOOS
ahCHARACTERSajIRCLESapWO OF BAMBOOSahCHARACTERSajIRCLESaoWEST WINDaiHITE DRAGONalINTER
arKASAR ANGKAafEND OF SECTIONaoLETTER AabBAacCAacDAacGAacJAacKAacLAacMAacNAabGAacYAadPAacRAacSA
acTAacVAacYAajPASSIMBANGakVOWEL SIGN EabIabOabUasLAYALAM AU LENGTH MARKaoDATE MARKaiIGIT EIGHT
afFIVEadOURaeNINEaeONEadSEVENaeIXadTHREEaeWOadZEROakFRACTION ONE EIGHTHagFIFTHaeORTIETHaiHALF
aeONE-HUNDRED-AND-SIXTIETHayQUARTERahSIXTEENTHajTENTHaeWENTIETHanTHREE EIGHTIETHSakQUARTERS
aiSIXTEENTHSakTWENTIETHSazLETTER AaaAabIabRCHAIC IIajUacBAabHAadCAabHAabILLU KabLaaLaaLadMabNaaN
acRRacYaiDAabDAabHAadHAacOT REPHaiEaaEacGAabHAadHAacIaaIacJAabHAadKAabHAadLAabLAabLAaeMAacNAabGA
acNAabNAadYAadOaaOacPAabHAadRAabRAadSAabHAacSAadTAabHAacTAabHAacTAaeUaaUacVAabEDIC ANUSVARA
anOCALIC LaaLacRaaRakYAajNUMBER ONE HUNDREDahTHOUSANDamTENakSIGN ANUSVARAahVAGRAHAaiCANDRABINDU
akIRCULAR VIRAMAaoOMBINING ANUSVARA ABOVEayPARAaeVERTICAL BAR VIRAMAasIRAMAaeSARGA
amVOWEL SIGN AAabIabUacEaaEacIaaIacOaaOacUaaUacVOCALIC LaaLacRaaRbcE AND FEMALE SIGNapSIGN
aeWITH STROKE AND MALE AND FEMALE SIGNaySIGNasTESE CROSSalMMOTHafNaa AND WOMAN HOLDING HANDS
axDANCINGahIN BUSINESS SUIT LEVITATINGayTUXEDOajWITH GUA PI MAOakTURBANamAT SIGN
ahDAIC AFFRICATION MARKaqGEMINATION MARKapLETTER ABabDabGabHabINacKaaSAadLabMabNabPabQabRabSaaH
abZacTaaTacZacDUSHENNAaiHALQAafINabTacKADadUSHENNAaoPUNCTUATIONalVOCALIZATION MARKawGO
acICHAEAN ABBREVIATION MARK ABOVEafBELOWaxLETTER AAYINaeLEPHaeYINaeBETHadHETHafDALETHafHAMEDH
ahFEacGHIMELafIMELafHEaaTHaeJAYINaeHAYINagKAPHadHAPHafLAMEDHagMEMadNUNadPEacQHOPHaeOPHaeRESH
aeSADHEadMEKHafHINadSHINafTAWacETHadHAMEDHahWAWadXAPHadOPHaeYODHaeZAYINaeHAYINanNUMBER FIVEaeONE
aa HUNDREDalTENacWENTYanPUNCTUATION DOTaa WITHIN DOTamUBLE DOT WITHIN DOTavFLEURONahLINE FILLER
alSTARaeTWO DOTSauSIGN UDapS SHOEagTELPIECE CLOCKaoUAL WHEELCHAIRapP SYMBOL FOR LIGHTHOUSE
awLE LEAFaiRCHEN HEAD MARKajLETTER -AacAabBAacCAabHAadDAabZAadGAacHAacJAacKAabHAadLAacMAacNAabGA
acYAadPAabHAadRAacSAabHAadTAabHAacSAabHAaeWAacYAacZAabHAakMARK SHADajSIGN ANUSVARAaiCANDRABINDU
apUBJOINED LETTER AabBAacCAabHAadDAabZAadGAacHAacJAacKAabHAadLAacMAacNAabGAacYAadPAabHAadRAacSA
abHAadTAabHAacSAabHAaeWAacYAacZAabHAauVOWEL SIGN AAacEabIabOabUarRIAGE SYMBOLamTIAL ARTS UNIFORM
asSARAM GONDI DIGIT EIGHTafFIVEadOURaeNINEaeONEadSEVENaeIXadTHREEaeWOadZEROakLETTER AaaAabIabU
acBAabHAadCAabHAadDAabDAabHAadHAadEabGAabHAadHAacIaaIacJAabHAacNYAaeKAabHAacSSAaeLAabLAadMAacNA
abGAacNAacYAadOabPAabHAadRAacSAabHAacSAadTAabHAacRAacTAabHAaeUaaUacVAacYAajRA-KARAagEPHA
afSIGN ANUSVARAaiCANDRAagHALANTAahNUKTAafVISARGAamVIRAMAafOWEL SIGN AAabIabUacEabIaaIacOabUaaU
acVOCALIC RbfCULINE ORDINAL INDICATORayK WORK SYMBOLanU MARKahTE DRINKahHEMATICAL BOLD CAPITAL A
aaLPHAafBaaETAaeCaaHIadDaaELTAaeIGAMMAahEaaPSILONagTAadFabGaaAMMAafHabIaaOTAaeJabKaaAPPAafL
aaAMDAafMaaUacNaaUacOaaMEGAadICRONahPaaHIacIabSIadQabRaaHOadSaaIGMAafTaaAUacHETAaa SYMBOLamU
aaPSILONahVabWabXaaIacYabZaaETAamDIGIT EIGHTafFIVEadOURaeNINEaeONEadSEVENaeIXadTHREEaeWOadZERO
akEPSILON SYMBOLaoFRAKTUR CAPITAL AabBabCabDabEabFabGabHabIabJabKabLabMabNabOabPabQabRabSabTabU
abVabWabXabYabZajSMALL AabBabCabDabEabFabGabHabIabJabKabLabMabNabOabPabQabRabSabTabUabVabWabXabY
abZapITALIC CAPITAL AaaLPHAafBaaETAaeCaaHIadDaaELTAafEaaPSILONagTAadFabGaaAMMAafHabIaaOTAaeJabK
aaAPPAafLaaAMDAafMaaUacNaaUacOaaMEGAadICRONahPaaHIacIabSIadQabRaaHOadSaaIGMAafTaaAUacHETA
aa SYMBOLamUaaPSILONahVabWabXaaIacYabZaaETAamEPSILON SYMBOLaoKAPPA SYMBOLamNABLA
afPARTIAL DIFFERENTIALatHI SYMBOLajI SYMBOLajRHO SYMBOLakSMALL AaaLPHAafBaaETAaeCaaHIadDaaELTA
afEaaPSILONagTAadFaaINAL SIGMAalGaaAMMAafHabIaaOTAaeJabKaaAPPAafLaaAMDAafMaaUacNaaUacOaaMEGA
adICRONahPaaHIacIabSIadQabRaaHOadSaaIGMAafTaaAUacHETAafUaaPSILONahVabWabXaaIacYabZaaETA
akTHETA SYMBOLatKAPPA SYMBOLamNABLAafPARTIAL DIFFERENTIALatHI SYMBOLajI SYMBOLajRHO SYMBOL
akSCRIPT CAPITAL AabBabCabDabEabFabGabHabIabJabKabLabMabNabOabPabQabRabSabTabUabVabWabXabYabZ
ajSMALL AabBabCabDabEabFabGabHabIabJabKabLabMabNabOabPabQabRabSabTabUabVabWabXabYabZanMALL A
aaLPHAafBaaETAaeCaaHIadDaaELTAaeIGAMMAahEaaPSILONagTAadFaaINAL SIGMAalGaaAMMAafHabIaaOTAaeJabK
aaAPPAafLaaAMDAafMaaUacNaaUacOaaMEGAadICRONahPaaHIacIabSIadQabRaaHOadSaaIGMAafTaaAUacHETAafU
aaPSILONahVabWabXaaIacYabZaaETAakTHETA SYMBOLarDOUBLE-STRUCK CAPITAL AabBabDabEabFabGabIabJabK
abLabMabOabSabTabUabVabWabXabYajDIGIT EIGHTafFIVEadOURaeNINEaeONEadSEVENaeIXadTHREEaeWOadZERO
akSMALL AabBabCabDabEabFabGabHabIabJabKabLabMabNabOabPabQabRabSabTabUabVabWabXabYabZ
avFALLING DIAGONALapRAKTUR CAPITAL AabBabDabEabFabGabJabKabLabMabNabOabPabQabSabTabUabVabWabXabY
ajSMALL AabBabCabDabEabFabGabHabIabJabKabLabMabNabOabPabQabRabSabTabUabVabWabXabYabZ
apITALIC CAPITAL AaaLPHAafBaaETAaeCaaHIadDaaELTAafEaaPSILONagTAadFabGaaAMMAafHabIaaOTAaeJabK
aaAPPAafLaaAMDAafMaaUacNaaUacOaaMEGAadICRONahPaaHIacIabSIadQabRaaHOadSaaIGMAafTaaAUacHETA
aa SYMBOLamUaaPSILONahVabWabXaaIacYabZaaETAamEPSILON SYMBOLaoKAPPA SYMBOLamNABLA
afPARTIAL DIFFERENTIALatHI SYMBOLajI SYMBOLajRHO SYMBOLakSMALL AaaLPHAafBaaETAaeCaaHIadDaaELTA
aeOTLESS IabJajEaaPSILONagTAadFaaINAL SIGMAalGaaAMMAafIaaOTAaeJabKaaAPPAafLaaAMDAafMaaUacNaaUacO
aaMEGAadICRONahPaaHIacIabSIadQabRaaHOadSaaIGMAafTaaAUacHETAafUaaPSILONahVabWabXaaIacYabZaaETA
akTHETA SYMBOLatLEFT ANGLE BRACKETanDOUBLE ANGLE BRACKETauFLATTENED PARENTHESIS
avWHITE SQUARE BRACKETaoTORTOISE SHELL BRACKETbhMONOSPACE CAPITAL AabBabCabDabEabFabGabHabIabJ
abKabLabMabNabOabPabQabRabSabTabUabVabWabXabYabZajDIGIT EIGHTafFIVEadOURaeNINEaeONEadSEVENaeIX
adTHREEaeWOadZEROakSMALL AabBabCabDabEabFabGabHabIabJabKabLabMabNabOabPabQabRabSabTabUabVabWabX
abYabZarRIGHT ANGLE BRACKETanDOUBLE ANGLE BRACKETauFLATTENED PARENTHESISavWHITE SQUARE BRACKET
aoTORTOISE SHELL BRACKETbgSING DIAGONALapSANS-SERIF BOLD CAPITAL AaaLPHAafBaaETAaeCaaHIadDaaELTA
afEaaPSILONagTAadFabGaaAMMAafHabIaaOTAaeJabKaaAPPAafLaaAMDAafMaaUacNaaUacOaaMEGAadICRONahPaaHI
acIabSIadQabRaaHOadSaaIGMAafTaaAUacHETAaa SYMBOLamUaaPSILONahVabWabXaaIacYabZaaETAamDIGIT EIGHT
afFIVEadOURaeNINEaeONEadSEVENaeIXadTHREEaeWOadZEROakEPSILON SYMBOLaoITALIC CAPITAL AaaLPHAafB
aaETAaeCaaHIadDaaELTAafEaaPSILONagTAadFabGaaAMMAafHabIaaOTAaeJabKaaAPPAafLaaAMDAafMaaUacNaaUacO
aaMEGAadICRONahPaaHIacIabSIadQabRaaHOadSaaIGMAafTaaAUacHETAaa SYMBOLamUaaPSILONahVabWabXaaIacY
abZaaETAamEPSILON SYMBOLaoKAPPA SYMBOLamNABLAafPARTIAL DIFFERENTIALatHI SYMBOLajI SYMBOL
ajRHO SYMBOLakSMALL AaaLPHAafBaaETAaeCaaHIadDaaELTAafEaaPSILONagTAadFaaINAL SIGMAalGaaAMMAafHabI
aaOTAaeJabKaaAPPAafLaaAMDAafMaaUacNaaUacOaaMEGAadICRONahPaaHIacIabSIadQabRaaHOadSaaIGMAafTaaAU
acHETAafUaaPSILONahVabWabXaaIacYabZaaETAakTHETA SYMBOLatKAPPA SYMBOLamNABLA
afPARTIAL DIFFERENTIALatHI SYMBOLajI SYMBOLajRHO SYMBOLakSMALL AaaLPHAafBaaETAaeCaaHIadDaaELTA
afEaaPSILONagTAadFaaINAL SIGMAalGaaAMMAafHabIaaOTAaeJabKaaAPPAafLaaAMDAafMaaUacNaaUacOaaMEGA
adICRONahPaaHIacIabSIadQabRaaHOadSaaIGMAafTaaAUacHETAafUaaPSILONahVabWabXaaIacYabZaaETA
akTHETA SYMBOLarCAPITAL AabBabCabDabEabFabGabHabIabJabKabLabMabNabOabPabQabRabSabTabUabVabWabX
abYabZajDIGIT EIGHTafFIVEadOURaeNINEaeONEadSEVENaeIXadTHREEaeWOadZEROakITALIC CAPITAL AabBabCabD
abEabFabGabHabIabJabKabLabMabNabOabPabQabRabSabTabUabVabWabXabYabZajSMALL AabBabCabDabEabFabGabH
abIabJabKabLabMabNabOabPabQabRabSabTabUabVabWabXabYabZaoSMALL AabBabCabDabEabFabGabHabIabJabKabL
abMabNabOabPabQabRabSabTabUabVabWabXabYabZarCRIPT CAPITAL AabCabDabGabJabKabNabOabPabQabSabTabU
abVabWabXabYabZajSMALL AabBabCabDabFabHabIabJabKabLabMabNabPabQabRabSabTabUabVabWabXabYabZ
azXIMIZEagYAN NUMERAL EIGHTaaEENahLEVENagFIFTEENafVEadOURaaTEENaiNINEaaTEENaiONEadSEVENaaTEEN
aiIXaaTEENahTENacHIRTEENagREEaeWELVEaeOadZEROarEASURED ANGLEaa OPENING LEFT
amWITH OPEN ARM ENDING IN ARROW POINTING DOWN AND LEFTaeRIGHTaoLEFT AND DOWNaeUPalRIGHT AND DOWN
aeUPamUP AND LEFTaeRIGHTcfBYacRIGHT ANGLE WITH DOTbaT ON BONEakCHANICAL ARMadLEG
amDEFAIDRIN CAPITAL LETTER AaaIabTIUaeBabCabDabEabFabGabHaaPacIabJabKaaPacLabMabNaaGabYacOaaEacP
abQabRabSabTabUabVabWabXabYaaUacZapOMMAafDIGIT EIGHTafFIVEadOURaeNINEaeONEaa ALTERNATE FORM
asSEVENaeIXadTHREEaa ALTERNATE FORMatWOaa ALTERNATE FORMasZEROakEXCLAMATION OHaoFULL STOP
ajNUMBER EIGHTEENahLEVENagFIFTEENagOURTEENaiNINETEENaiSEVENTEENaiIXTEENahTENacHIRTEENahWELVE
anSMALL LETTER AaaIabTIUaeBabCabDabEabFabGabHaaPacIabJabKaaPacLabMabNaaGabYacOaaEacPabQabRabSabT
abUabVabWabXabYaaUacZanYMBOL AIVAauIEVAL COMMAafEXCLAMATION MARKaqQUESTION MARKasUM BLACK CIRCLE
alOLD WHITE CIRCLEarEIGHT POINTED BLACK STARasSPOKED ASTERISKavFIVE SPOKED ASTERISK
atLATTENED LEFT PARENTHESIS ORNAMENTazRIGHT PARENTHESIS ORNAMENTbjOUR POINTED BLACK STAR
akPINWHEEL STARbaGREEK CROSSalLEFT CURLY BRACKET ORNAMENTawPARENTHESIS ORNAMENT
av-POINTING ANGLE BRACKET ORNAMENTbkMATHEMATICAL SPACEasRIGHT CURLY BRACKET ORNAMENT
awPARENTHESIS ORNAMENTav-POINTING ANGLE BRACKET ORNAMENTblSALTIREagHADEaeIX POINTED BLACK STAR
asSPOKED ASTERISKasMALL WHITE CIRCLEasTHREE POINTED BLACK STARakPINWHEEL STARbbVERTICAL BAR
amWHITE CIRCLEagSQUAREarETEI MAYEK AHANG KHUDAMalNJIadPUN IYEKajCHEIKHANacEIaiDIGIT EIGHTafFIVE
adOURaeNINEaeONEadSEVENaeIXadTHREEaeWOadZEROakLETTER ATIYAafBAabHAMaeCHAabILaeDDAabHAadHOUadIL
adEabGHOUadOKadHUKadIaa LONSUMaiJHAMadILadKHOUadOKaa LONSUMakLAIaa LONSUMakMITaa LONSUMakNA
aa LONSUMaiGOUaa LONSUMakNAacYAadOabPAaa LONSUMaiHAMaeRAIadSAMacHAacSAadTHOUadILaa LONSUMajTA
abHAaeUNacWAIadYANGakUM IYEKaiSYLLABLE REPETITION MARKayVIRAMAafOWEL SIGN AAIabUacNAPadU
acCHEINAPahIIabNAPaeNUNGaeONAPaeSOUNAPagUNAPadUacVISARGAahYENAPaqWORD REPETITION MARKbfLON
acTING FACEakMOacNDE KIKAKUI COMBINING NUMBER HUNDRED THOUSANDSakSaiMILLIONSaiTEENSadN THOUSANDS
akSadHOUSANDSbaDIGIT EIGHTafFIVEadOURaeNINEaeONEadSEVENaeIXadTHREEaeWOajSYLLABLE M001 KIae2 KA
ae3 KUae4 WIae5 WAae6 WUae7 MINaf8 MANaf9 MUNag10 BIae1 BAae2 BUae3 Iad4 Aad5 Uad6 DIae7 DA
ae8 DUae9 SIaf20 SAae1 SUae2 TIae3 TAae4 TUae5 LIae6 LAae7 LUae8 JIae9 JAaf30 JUae1 YIae2 YA
ae3 YUae4 FIae5 FAae6 FUae7 NINaf8 NANaf9 NUNag40 HEEaf1 HAae2 HOOaf3 NGGAag4 KPEEag5 WOae6 HUAN
ag7 MBEEag8 KOae9 WVAag50 PUae1 PEae2 HENaf3 HINaf4 LOOaf5 TEae6 GBAaf7 NGONag8 NYANag9 MEN
ag60 NYONag1 WVIaf2 MBAaf3 JOae4 NDOaf5 KEEaf6 POae7 NDOOag8 PIae9 TOaf70 GBOaf1 GBOOag2 MBE
af3 LEae4 KPUaf5 FEae6 KOOaf7 VOae8 FEEaf9 SOaf80 YEae1 PEEaf2 NGGUag3 HEEIag4 LEEaf5 VE
ae6 LONG NGGEal7 HUNaf8 FOae9 DEEag90 NGGIag1 TEEaf2 KPAaf3 GBEEag4 MONaf5 KEae6 HEae7 BE
ae8 NYENag9 PAag100 Ead1 FANaf2 POOaf3 BOOaf4 TOOaf5 LONG MBOOal6 LONG NGGOOam7 GBEaf8 KPE
af9 YEEag10 LONG LEaj1 GAae2 KPOOag3 JEae4 WOOaf5 NGGEEah6 SEae7 NENaf8 WEae9 NDEag20 NGGOag1 YO
ae2 MBUaf3 NDIaf4 GBIaf5 NDUaf6 WEEaf7 NGGUAah8 HOOUag9 NDAag30 HANaf1 INae2 KPIaf3 FOOaf4 NJOO
ag5 INae6 SOOaf7 EIae8 BOae9 WVEag40 HOae1 YOOaf2 LONG MBOak3 WEIaf4 VOOaf5 MBIaf6 NGGEag7 O
ad8 GBUaf9 NJEEah50 BEEaf1 VUae2 NJAaf3 LOae4 MUANag5 GIae6 NGGOOah7 JEEaf8 KPOaf9 NGGAAai60 JOO
af1 LONG MBEak2 SEEaf3 EEae4 NYINag5 OOae6 GUEIag7 GUANag8 GUae9 NONag70 NYUNag1 RAae2 MBOO
ag3 VEEaf4 MBOaf5 LONG JOaj6 HIae7 NGUANah8 ENae9 KUAag80 DOOaf1 DOae2 VIae3 LONG NGGOal4 NGEN
ag5 VAae6 HUae7 MBUUag8 MBEEag9 MUENah90 GEEaf1 NDEEag2 NJUaf3 HONaf4 WUIaf5 ANae6 SIAaf7 FUA
bcORAH WITH NINE BRANCHESaxS SYMBOLajRCURYaeOITIC CURSIVE FRACTION EIGHT TWELFTHS
anLEVEN TWELFTHSapFIVE TWELFTHSamOUR TWELFTHSanNINE TWELFTHSanONE HALFaeTWELFTHalSEVEN TWELFTHS
anIX TWELFTHSamTEN TWELFTHSalHREE TWELFTHSanWO TWELFTHSavLETTER AaaRCHAIC SAakBAacDAacEabHHAadI
abKAabHAadLAacMAacNAabEacOabPAacQAacRAacSAabEacTAabEabOacWAacYAaiOGOGRAM IMNadRMTamNUMBER EIGHT
aa HUNDREDaa THOUSANDaqTHOUSANDajY THOUSANDapFIFTYaa THOUSANDamVEaa HUNDREDaa THOUSANDaqTHOUSAND
amORTYaa THOUSANDamURaa HUNDREDaa THOUSANDaqTHOUSANDanNINEaa HUNDREDaa THOUSANDaqTHOUSAND
ajTY THOUSANDapONEaa HUNDREDaa THOUSANDaqTHOUSANDamSEVENaa HUNDREDaa THOUSANDaqTHOUSANDajTY
aa THOUSANDapIXaa HUNDREDaa THOUSANDaqTHOUSANDajTYaa THOUSANDaoTENaa THOUSANDalHIRTYaa THOUSAND
anREEaa HUNDREDaa THOUSANDaqTHOUSANDanWENTYaa THOUSANDanOaa HUNDREDaa THOUSANDaqTHOUSAND
bbHIEROGLYPHIC LETTER AabBAaa-2aeDAacEabHHAadIabKAabHAadLAacMAacNAaa-2adEaa-2aeOabPAacQAacRAaa-2
aeSAaa-2adEacTAaa-2adEaa-2adOacWAacYAajSYMBOL VIDJaa-2bgPERSONahSSAGE WAITINGanTRICAL BREVE
afLONG OVER SHORTafTWO SHORTSauPENTASEMEajSHORT OVER LONGapTETRASEMEaiRISEMEagWO SHORTS JOINED
agOVER LONGazOaeIAO LETTER AHabRCHAIC MAacNAabGAadZZAalBAabRIadDAabDAacLHAabYAaeZAabHAacYIacZA
aeFAacGAabHAabHAaeHAabHAadKAacLAabHAabYAadYAadMAabHAadNAaaSALIZATIONalGAabHAadHAacNAabHAadYAabHA
aePAabLAadQAabGAadREFORMED TONE-1ab2ab4ab5ab6ab8afSHAamTEadSAabHAacSAacYIadTAabEabLHAabYAaeONE-2
ab3ab4ab5ab6ab7ab8afSAabEabHAacSAadTAadVAabFAadWAacXAacYI DZHAaeKAacNNAadPAacTAabSAabHAadTAagZA
abHAacSAabHAadZAabSAabYAadYAalSIGN ASPIRATIONakCONSONANT MODIFIER BARawREFORMED ASPIRATION
akVOICINGavTONE ABOVEafBELOWafRIGHTafTOP RIGHTaoVOWEL SIGN AaaAabEaaEacHHacIabNaaGacUacEaaAabI
abNaaGacRaaRadIaaAaaNaaGadEabGabIabNGacOaaNGadUacNaaGacOaaERabYacGabOabUacROUNDED ERaaRalUaaAaaN
aaGadEIacIabNGacOGacUacVWacWaaOacYaaIabUIarCR DASH SYMBOLalON US SYMBOLanO SIGNafBEacPHONE
afSCOPEaiDDLE DOTadTHIRD WHITE RIGHT POINTING INDEXbkLINE HORIZONTAL ELLIPSISazLITARY HELMET
agMEDALalKY WAYagL SIGNahNIBUSadDISCaeMIZEafUS SIGNaa IN TRIANGLEalWITH COMMA ABOVEalDOT BELOW
ajFALLING DOTSamRISING DOTSavTILDEag-OR-PLUS SIGNapYacRRORaa BALLakMSPadOBILE PHONEaa OFF
adWITH RIGHTWARDS ARROW AT LEFTboDELSacRN PENTATHLONaoI ABBREVIATION SIGNarDANDAaeIGIT EIGHT
afFIVEadOURaeNINEaeONEadSEVENaeIXadTHREEaeWOadZEROajOUBLE DANDAamLETTER AaaAabIabUacBAabHAadCA
abHAadDAabDAabHAadHAadEabGAabHAadHAacIaaIacJAabHAadKAabHAadLAabLAadMAacNAabGAacNAacYAadOabPAabHA
adRAacSAabHAacSAadTAabHAacTAabHAaeUaaUacVAabOCALIC LaaLacRaaRakYAajSIGN ANUSVARAahRDHACANDRA
alHUVAaeVIRAMAaeSARGAamVOWEL SIGN AAabIabUacEabIaaIacOabUaaUacVOCALIC LaaLacRaaR
awFIER BREVE WITH INVERTED BREVEazLETTER ACUTE ACCENTalLVEOLAR CLICKanPOSTROPHEakBEGIN HIGH TONE
ajLOW TONEanILABIAL CLICKaoCAPITAL AaaEacBaaARRED BaiCabDabEabFabGabHaa WITH STROKEanIabJabKabL
abMabNabOaaUacPabQabRaaEVERSED EabNakTabUabVabWaiENTRED LEFT HALF RINGaoRIGHT HALF RING
awHINESE TONE YANG PINGaeQUacRUacSHANGajIN PINGaeQUacRUacSHANGavIRCUMFLEX ACCENTaqOLON
aeROSS ACCENTalYRILLIC ENacHARD SIGNajSOFT SIGNasDENTAL CLICKalOT HORIZONTAL BARaoSLASH
afVERTICAL BARaoUBLE APOSTROPHEakPRIMEakWN ARROWHEADajTACKajEND HIGH TONEajLOW TONE
alXTRA-HIGH DOTTED LEFT-STEM TONE BARasTONE BARapLEFT-STEM TONE BARasTONE BAR
anLOW DOTTED LEFT-STEM TONE BARasTONE BARapLEFT-STEM TONE BARasTONE BARasGEORGIAN NAR
alLOTTAL STOPaa WITH STROKEaxRAVE ACCENTamHALF TRIANGULAR COLONauIGH DOTTED LEFT-STEM TONE BAR
asTONE BARapLEFT-STEM TONE BARasTONE BARanLATERAL CLICKamEFT ARROWHEADajHALF RINGajTACK
aiOW ACUTE ACCENTamCIRCUMFLEX ACCENTarDOTTED LEFT-STEM TONE BARasTONE BARanWN ARROWHEAD
aoGRAVE ACCENTamINVERTED EXCLAMATION MARKazLEFT ARROWaaHEADak-STEM TONE BARasMACRON
agRIGHT ARROWHEADanNGaeTILDEaeONE BARaiUP ARROWHEADamVERTICAL LINEaoER RIGHT CORNER ANGLE
ayMACRONafID DOTTED LEFT-STEM TONE BARasTONE BARapLEFT-STEM TONE BARasTONE BAR
ajDLE DOUBLE ACUTE ACCENTamGRAVE ACCENTatGRAVE ACCENTarNUS SIGNakOPEN SHELFakPLUS SIGNaiRIME
afRAISED COLONafDOWN ARROWakEXCLAMATION MARKaqINVERTED EXCLAMATION MARKazUP ARROW
aoETROFLEX CLICK WITH RETROFLEX HOOKbhVERSED COMMAafGLOTTAL STOPaa WITH STROKEbgHOTIC HOOK
akIGHT ARROWHEADajHALF RINGajTACKakSHELFadORT EQUALS SIGNaqMALL AaaEabINacLPHAafBaa WITH HOOK
akARRED OahETAadOTTOM HALF OanCaa WITH CURLakAPITAL AAacBabGaa WITH HOOKalHabIaa WITH STROKE
amNVERTED RakLaa WITH BELTalNabOEacRabUabYaiHIacLOSED OMEGAafREVERSED OPEN EawDaa WITH HOOK
aa AND TAILanTAILakELTAadZH DIGRAPHalOTLESS J WITH STROKEaa AND HOOKbdZ DIGRAPHaa WITH CURL
aeRETROFLEX HOOKbeEaaNGacSHacTHacZHadFaaENG DIGRAPHamGaa WITH HOOKakAMMAaeREEK GAMMAafPHIajH
aa WITH HOOKaeSTROKEamENGaa WITH HOOKaoI WITH STROKEamOTAaeJaa WITH CROSSED-TAILatKabL
aa WITH BELTaeINVERTED LAZY SapMIDDLE TILDEamPALATAL HOOKamRETROFLEX HOOKaa AND BELTbdEZH
aa WITH RETROFLEX HOOKaxIGATURE OEakS DIGRAPHajZ DIGRAPHakMaa WITH HOOKalN WITH LEFT HOOK
ajRETROFLEX HOOKavOaa WITH STROKEamPEN EabOagPaaHIadQabRaa WITH FISHHOOKaiTAILakAMS HORN
aiEVERSED EabGLOTTAL STOPamOPEN EapSaa WITH CURLaeHOOKakCHWAadRIPT GahIDEWAYS UakT
aa WITH PALATAL HOOKamRETROFLEX HOOKauC DIGRAPH WITH CURLatESH DIGRAPHalHETAaeOP HALF O
ajS DIGRAPHaa WITH RETROFLEX HOOKbdURNED AaaEabLPHAafHabIabMaa WITH LONG LEGapOPEN EagR
aa WITH HOOKaeLONG LEGaa AND RETROFLEX HOOKbiVabWabYaa WITH BELTasUaa BARadWITH LEFT HOOK
apPSILONahVaa WITH HOOKaeRIGHT HOOKarWabXabYabZaa WITH CURLaeRETROFLEX HOOKbaTRESS AND HIGH TONE
ajLOW TONEasUPERSCRIPT HALF TRIANGULAR COLONavTRIANGULAR COLONbcTRIANGULAR COLONapURNED COMMA
amUNASPIRATEDakP ARROWHEADajTACKagSacVERTICAL LINEamOICINGahYANG DEPARTING TONE MARK
axIN DEPARTING TONE MARKbkULO TWO SUMamNEY BAGadWITH WINGSal-MOUTH FACEanGOLIAN BIRGA
aa WITH DOUBLE ORNAMENTapORNAMENTatCOLONadMMAafDIGIT EIGHTafFIVEadOURaeNINEaeONEadSEVENaeIX
adTHREEaeWOadZEROajOUBLE BIRGA WITH ORNAMENTbaELLIPSISaiFOUR DOTSaiREE VARIATION SELECTOR FOUR
aeONEadTHREEaeWObaULL STOPajINVERTED BIRGAaa WITH DOUBLE ORNAMENTbjLETTER AaaLI GALI AaaH
abNUSVARA ONEamBALUDAagCAacDAaaGALGAafMARUafDAadHALF UabYAahIaaNVERTED UBADAMAaqKAacNGAacNAadPA
abHAadSSAadTAabHREE BALUDAalTAabHAaeUBADAMAahVISARGA ONEalZAabHAalNGadBAacCHAaa WITH TWO DOTSapI
adDAacEaaEacFAacGAacHAAadIabJAacKAabHAadLAabHAadMAaaNCHU ALI GALI BHAadCAabYAadDDHAadHAadGHA
adJHAadLHAadNGAadSSAadTAabTAadZAabHAamFAacIabKAacRAacZHAakNAacOaaEacPAacQAacRAacSAabHAacIBE ANG
adCHAadDAacEabFAacGAaaAadHAaaAadIaaYacJAacKAacPAacRAAadSHAadTAabSAadUaaEacZAabHAaiTA
abODO ALI GALI TAacZHAalNGadBAacCHAadDAabZAadEabGAaaAadHAAadIabJAabIAadKAacLONG VOWEL SIGNapMA
acNIAadOaaEacPAacQAacTAabSAadUaaEacWAacYAagSAadUaaEacWAacYAacZAabHIacRAakMANCHU COMMAafFULL STOP
aqNIRUGUagROTATED BIRGAaa WITH DOUBLE ORNAMENTapORNAMENTbbSIBE SYLLABLE BOUNDARY MARKER
bcWIRL BIRGAaa WITH DOUBLE ORNAMENTapORNAMENTazTODO SOFT HYPHENapRIPLE BIRGA WITH ORNAMENT
azURNED SWIRL BIRGA WITH DOUBLE ORNAMENTbnVOWEL SEPARATORawKEYaa FACEaiOGRAM FOR EARTHafYANGadIN
amRAILaeSTABLE SYMBOLapOD BUBBLEaiN CAKEaeVIEWING CEREMONYatSQUEabITOagTHER CHRISTMASanOR BOAT
aeSCOOTERaiIZED WHEELCHAIRapWAYagUNT FUJIafAINaa BICYCLISTajCABLEWAYaiRAILWAYanSEaa FACEaeTRAP
ahTHadVIE CAMERAakYAIaeRO DANDAaeIGIT EIGHTafFIVEadOURaeNINEaeONEadSEVENaeIXadTHREEaeWOadZERO
ajOUBLE DANDAamLETTER AabBAacCHUadDAaaIadEaaAacHAIabOadKEAAEaeHAIadOacLAaaNadMAEMadIMadNGIacIN
adOaaLabOacPAabHIadRIabOacSHIadTAabEKacHEAaeWAacYOamUCH GREATER-THANamLESS-THANamLTANI LETTER A
abBAabHAadCAabHAadDAabDAabDAacHAadHAadEabGAabHAadHAacIabJAabJAadKAabHAadLAacMAacNAabNAacYAadPA
abHAadRAabHAacRAadSAacTAabHAacTAabHAaeUabVAacYAajSECTION MARKaqIMAPadPLE MUSICAL NOTES
apICATION SIGNaa IN DOUBLE CIRCLEanLEFT HALF CIRCLEaqRIGHT HALF CIRCLEarTRIANGLEalWITH DOT ABOVE
ajUNDERBARasXalSETaa MULTIPLICATIONaoUNIONamSHROOMafIC FLAT SIGNajNATURAL SIGNamSHARP SIGN
alAL KEYBOARDaa WITH JACKSatNOTEaeSCOREaeYMBOL ARPEGGIATO DOWNaeUPanBEGIN BEAMaePHRASEagSLUR
aeTIEaiRACEabKETafEATH MARKaiVEabISaa RESTalC CLEFafAESURAagIRCLE X NOTEHEADaqLIMACUSafVIS
aeUSTER NOTEHEAD BLACKafWHITEavODAacMBINING ACCENTaa-STACCATOaoUGMENTATION DOTaqBENDaeDOIT
acUBLE TONGUEalWN BOWaiFLAG-1ab2ab3ab4ab5aeIPaeHARMONICaiLOUREafMARCATOaa-STACCATOaqRIPadSMEAR
aeNAP PIZZICATOanPRECHGESANG STEMaqTACCATISSIMOagOagEMaeTENUTOafREMOLO-1ab2ab3ahIPLE TONGUE
anUP BOWanMON TIMEakRESCENDOahOIXaeUT TIMEaiDA CAPOafL SEGNOahMPaa ALLagSHED BARLINEanECRESCENDO
ajGREE SLASHalOUBLE BARLINEahFLATaeSHARPalRUM CLEF-1ab2alEIGHTH NOTEaeRESTakND BEAMaeOF STIMME
ajPHRASEagSLURaeTIEahF CLEFaa OTTAVA ALTAaeBASSAasERMATAaa BELOWamINAL BARLINEakGERED TREMOLO-1
ab2ab3aqVE-LINE STAFFaoLAT DOWNaeUPagORTEadUR-LINE STAFFakSTRING FRETBOARDauUSA BLACKafWHITE
akG CLEFaa OTTAVA ALTAaeBASSAasLISSANDO DOWNaeUPalRACE NOTE NO SLASHaiSLASHaoEGORIAN C CLEF
agF CLEFaqHALF NOTEaePEDAL MARKakRESTahUPTSTIMMEalINVERTED TURNanKIEVAN C CLEF
agEIGHTH NOTE STEM DOWNaeUPasND OF PIECEamFINAL NOTEajLAT SIGNajHALF NOTE
ajQUARTER NOTE STEM DOWNaeUPauRECITATIVE MARKapWHOLE NOTEaqORONafLEFT REPEAT SIGNapONGA
aa IMPERFECTA RESTapPERFECTA RESTatMAXIMAafEZZOaeINIMAaa BLACKafRESTakOON NOTEHEAD BLACKafWHITE
asULTI RESTafPLE MEASURE RESTavNATURAL DOWNaeUPajEBENSTIMMEakOTEHEAD BLACKanULL NOTEHEAD
anONE HUNDRED TWENTY-EIGHTH NOTEaeRESTbb-LINE STAFFanRNAMENT STROKE-1aa0ab1ac2ab3ab4ab5ab6ab7ab8
ab9aqTTAVA ALTAaeBASSAamPARENTHESIS NOTEHEADatEDAL MARKaeUP MARKalS SUBPUNCTISanIANO
aeLUS NOTEHEADamODATUSafRRECTUSaa FLEXUSaqQUARTER NOTEaeRESTaeTONE FLATaeSHARPaqINDICESIMA ALTA
aeBASSAasREPEAT DOTSafED FIGURE-1ab2ab3apVERSE FINAL BARLINEauIGHT REPEAT SIGNapNFORZANDO
alSCANDICUSaa FLEXUSapEGNOadMIBREVIS BLACKafRESTaeWHITEamMINIMA BLACKafRESTaeWHITEapHARP DOWN
aeUPagORT BARLINEamINGLE BARLINEamX-LINE STAFFakSTRING FRETBOARDarTEENTH NOTEaeREST
akY-FOURTH NOTEaeRESTaqORIadQUARE BabNOTEHEAD BLACKafWHITEauUBITO
agTEMPUS IMPERFECTUM CUM PROLATIONE IMPERFECTAaa DIMINUTION-1ab2ab3axPERFECTA
bjPERFECTUM CUM PROLATIONE IMPERFECTAakPERFECTAaa DIMINUTION-1caHIRTY-SECOND NOTEaeREST
aqREE-LINE STAFFapORCULUSaa RESUPINUSarRaaIANGLE NOTEHEAD DOWN BLACKafWHITEakLEFT BLACKafWHITE
akRIGHT BLACKafWHITEalUP BLACKafRIGHT BLACKafWHITEalWHITEas-ROUND NOTEHEAD DOWN BLACKafWHITE
bhURNaa SLASHafUPagWO-LINE STAFFaoVIRGAaeOID NOTEHEADanWHOLE NOTEaeRESTajITH FINGERNAILS
aqX NOTEHEADakZapVSacWabYANMAR CONSONANT SIGN MEDIAL HAacRAacWAacYAaiON MEDIAL LAacMAacNA
anSHAN MEDIAL WAbdDIGIT EIGHTafFIVEadOURaeNINEaeONEadSEVENaeIXadTHREEaeWOadZEROakLETTER A
aaITON RAahUacBAabHAadCAabHAadDAabDAabHAadHAadEaaASTERN PWO KAREN GHWAaeNNAadYWAavGAabHA
acREAT SAaiHAacIaaIacJAabHAadKAabHAaaMTI CAabHAadDDAabHAadHAadFAacGAacHAabHAadJAabHAadLLAadNA
abYAadRAacSAacTTAabHAaeXAacZAajLAabLAadMAabON BBAabEadEabJHAadNGAahNAabGAacNAabYAadYAadOabPAabHA
adRAabUMAI PALAUNG FAaqSAabGAW KAREN SHAanHAaaN AabBAabHAadCAabHAadDAacFAacGAabHAadHAacJHAadKA
abHAadNAabNAacYAadPHAadTHAadZAafWE PALAUNG CHAadSHAapSAadTAaaI LAING BAabHAadDAabDAabHAadHAadFA
acGAabHAadJAabHAadLLAadNNAacYAamHAacTAabHAaeUaaUacVOCALIC LaaLacRaaRakWAabESTERN PWO KAREN PWA
adTHAavYAaiOGOGRAM KHAMTI HMacOAYadQNasMODIFIER LETTER KHAMTI REDUPLICATIONauSHAN REDUPLICATION
biSHAN DIGIT EIGHTafFIVEadOURaeNINEaeONEadSEVENaeIXadTHREEaeWOadZEROaoIGN ANUSVARAahSAT
aeDOT BELOWajKHAMTI TONE-1ab3anLITTLE SECTIONaoPAO KAREN TONEaoRUMAI PALAUNG TONE-5auSECTION
agHAN COUNCIL EMPHATIC TONEanTONE-2ab3aoSAWadTONE-2ab3ab5ab6alTAI LAING TONE-2ab5aqVIRAMAaeSARGA
ahWESTERN PWO KAREN TONE-1ab2ab3ab4ab5bcYMBOL AFOREMENTIONEDanITON EXCLAMATIONalONEadTWO
ajCOMPLETEDajGENITIVEaiLOCATIVEaiSHAN EXCLAMATIONalONEapTAI LAING DIGIT EIGHTafFIVEadOURaeNINE
aeONEadSEVENaeIXadTHREEaeWOadZEROatONE MARK SGAW KAREN HATHIafKE PHObbVOWEL SIGN AAabIaaTON AaaI
aiEaa ABOVEahGEBA KAREN IamIaaIacKAYAH EEacOEacUahMON IIacOafSGAW KAREN EUamHAN AAacEaa ABOVE
ahFINAL YamTALL AAahUaaUacVOCALIC LaaLacRaaRakWESTERN PWO KAREN EUacUE
bnN-ARY CIRCLED DOT OPERATORamPLUS OPERATORanTIMES OPERATORavOPRODUCTajINTERSECTIONamLOGICAL AND
adORakPRODUCTahSQUARE INTERSECTION OPERATORavUNION OPERATORauUMMATIONajTIMES OPERATORaoUNION
aa OPERATOR WITH DOTadPLUSayWHITE VERTICAL BARaxABATAEAN CRUCIFORM NUMBER FOURavLETTER ALEPH
aeYINaeBETHaeDALETHagFINAL ALEPHafBETHaeHEacKAPHaeLAMEDHagMEMadNUNadSHINaeYODHakGIMELafHEaaTH
aeKAPHaeLAMEDHagMEMadNUNadPEacQOPHaeRESHaeSADHEadMEKHafHINaeTAWacETHaeWAWadYODHaeZAYIN
amNUMBER FIVEadOURaeONEaa HUNDREDalTENacHREEaeWENTYaeOarLAadIL POLISHaiRA SIGNaiKabME BADGEaiND
aaINAGARI HEADSTROKEakLETTER AaaAabIabUacBAabHAadCAabHAadDAabDAabHAadHAadEabGAabHAadHAacIaaIacJA
abHAadKAabHAadLAabLAadMAacNAabGAacNAacYAadOabPAabHAadRAabRAadSAabHAacSAadTAabHAacTAabHAaeUaaU
acVAabOCALIC RaaRakYAajSIGN ANUSVARAahVAGRAHAaiSIDDHAMahVIRAMAaeSARGAamVOWEL SIGN AAabIabUacEabI
aaIacOabPRISHTHAMATRA EapUaaUacVOCALIC RaaRbfRROW NO-BREAK SPACEatTIONAL DIGIT SHAPESamPARK
alUSEATED FACEamZAR AMULETalBHabSPadECKTIEafGATED DOUBLE VERTICAL BAR DOUBLE RIGHT TURNSTILE
btIVE ACKNOWLEDGEalCIRCLED DIGIT ZEROakLATIN CAPITAL LETTER AabBabCabDabEabFabGabHabIabJabKabL
abMabNabOabPabQabRabSabTabUabVabWabXabYabZawNUMBER EIGHTEENahLEVENagFIFTEENagOURTEENaiNINETEEN
aiSEVENTEENaiIXTEENahTHIRTEENahWELVEadNTYanSQUAREagTRIANGLEaqDIAGONAL CROSSafDIAMOND
ahMIDDLE RIGHT TO LOWER CENTREblSQUARED ABacCROSS MARKakICacLATIN CAPITAL LETTER AabBabCabDabE
abFabGabHabIabJabKabLabMabNabOabPabQabRabSabTabUabVabWabXabYabZawPAacQUESTION MARKanSAacWC
arITHER A SUBSET OF NOR EQUAL TOauPERSET OF NOR EQUAL TOazPPROXIMATELY NOR ACTUALLY EQUAL TO
bjGREATER-THAN NOR EQUAL TOafIVALENT TOanLESS-THANbaLESS-THAN NOR EQUAL TOafIVALENT TO
anGREATER-THANbgLabPTUNEaa FORM TWOaoRD FACEahSSUSadT WITH EGGSakING DOLLSalUTER
acRAL CHESS BISHOPaa ROTATED NINETY DEGREESaoTWO HUNDRED SEVENTY DEGREESbqEQUIHOPPER
aa ROTATED NINETY DEGREESbhKINGaa ROTATED NINETY DEGREESaoTWO HUNDRED SEVENTY DEGREESbnNIGHT
aa ROTATED FORTY-FIVE DEGREESasNINETY DEGREESaoONE HUNDRED THIRTY-FIVE DEGREES
bfTHREE HUNDRED FIFTEEN DEGREESbcWO HUNDRED SEVENTY DEGREESapTWENTY-FIVE DEGREESbuPAWN
aa ROTATED NINETY DEGREESaoTWO HUNDRED SEVENTY DEGREESboQUEENaa ROTATED NINETY DEGREES
aoTWO HUNDRED SEVENTY DEGREESbpROOKaa ROTATED NINETY DEGREESaoTWO HUNDRED SEVENTY DEGREES
boTURNED BISHOPagKINGadNIGHTagPAWNaeQUEENafROOKarFACEakW LINEaeMOON SYMBOLagWITH FACE
aoSHEQEL SIGNalTAI LUE DIGIT EIGHTafFIVEadOURaeNINEaeONEadSEVENaeIXadTHREEaeWOadZERO
akLETTER FINAL BabDabKabMabNaaGacVahHIGH BAacDAacFAacHAacKAabVAadLAacMAacNAabGAadPAabHAadQAacSA
abUAadTAabHAacSAadVAacXAabVAadYAahLOW BAacDAacFAacHAacKAabVAadLAacMAacNAabGAadPAabHAadQAacSAabUA
adTAabHAacSAadVAacXAabVAadYAanSIGN LAEaaVajTHAM DIGIT ONEanONE MARK-1ab2alVOWEL SIGN AAaaYacEabY
acEabIIabYacOaaAaaYacYacUaaEaaYacUabYacVOWEL SHORTENERbjA ABBREVIATION SIGNarCOMMAafDANDA
aeIGIT EIGHTafFIVEadOURaeNINEaeONEadSEVENaeIXadTHREEaeWOadZEROajOUBLE COMMAafDANDAamGAP FILLER
akINSERTION SIGNaoLETTER AaaAabIabUacBAabHAadCAabHAadDAabDAabHAadHAadEabGAabHAadHAacIaaIacJAabHA
adKAabHAadLAabHAadMAabHAadNAabGAabHAadHAacNAacYAabHAaeOabPAabHAadRAabHAadSAabHAacSAadTAabHAacTA
abHAaeUaaUacVEDIC ANUSVARAanOCALIC LaaLacRaaRakWAacYAajOMacPLACEHOLDER MARKaqSANDHI MARKakIDDHI
aeGN ANUSVARAahVAGRAHAaiCANDRABINDUalFINAL ANUSVARAaoJIHVAMULIYAalNUKTAafUPADHMANIYAalVIRAMA
aeSARGAamVOWEL SIGN AAabIabUacEabIaaIacOabUaaUacVOCALIC LaaLacRaaRaxLINE LEFTaeRIGHTakSPAPER
ahXT LINEaePAGEaiIGHT WITH STARSaoNJAaeKO COMBINING DOUBLE DOT ABOVEaqLONG DESCENDING TONE
apHIGH TONEajLOW TONEaiRISING TONEaqNASALIZATION MARKarSHORT HIGH TONEajLOW TONEaiRISING TONE
ayMAafDANTAYALANajIGIT EIGHTafFIVEadOURaeNINEaeONEadSEVENaeIXadTHREEaeWOadZEROajOROME SIGN
alEXCLAMATION MARKaqHIGH TONE APOSTROPHEauLAJANYALANajETTER AabBAacCHAadDAaaGBASINNAakEaaEacFA
acGBAadHAacIabJAabONA CHAadJAacRAahKAacLAacMAacNaaAaa WOLOSOaiYAaa WOLOSOakOaaOacPAacRAabRAadSA
acTAacUabWAacYAaiOW TONE APOSTROPHEatSYMBOL GBAKURUNENakOO DENNENaqTAMAN SIGNanLabNBSP
aeO BICYCLESahREAK HEREakENTRYaa SIGNakMOBILE PHONESanONE UNDER EIGHTEEN SYMBOLazPEDESTRIANS
akIRACYagSMOKING SYMBOLap-BREAK SPACEamMINAL DIGIT SHAPESaqSMA SIGNakN-BREAKING HYPHEN
apPOTABLE WATER SYMBOLavFORKINGaiRaaDIC MARK SIGNanMAL SUBGROUP OFaa OR EQUAL TO
bbTH EAST AND SOUTH WEST ARROWatRROWaa AND SOUTH EAST ARROWauCROSSING NORTH WEST ARROW
aqSOUTH EAST ARROWazWITH HOOKapBLACK ARROWalDOUBLE ARROWamPOINTING BUDadLEAFaeVINE LEAF
asSANS-SERIF ARROWaqTRIANGLE-HEADED ARROWaa TO BARbcWHITE ARROWaqINDIC FRACTION ONE EIGHTHagHALF
aeQUARTERahSIXTEENTHanTHREE QUARTERSaiSIXTEENTHSazPLACEHOLDER MARKaqQUANTITY MARKakRTER MARK
amRUPEE MARKaqWEST AND SOUTH EAST ARROWatRROWaa AND NORTH EAST ARROWauCROSSING NORTH EAST ARROW
azTO CORNERagLONG BARalWITH HOOKapBLACK ARROWalDOUBLE ARROWamPOINTING BUDadLEAFaeVINE LEAF
asSANS-SERIF ARROWaqTRIANGLE-HEADED ARROWaa TO BARbcWHITE ARROWarEAST-POINTING AIRPLANEazSE
acT A SUBSET OFahPERSET OFamLMOST EQUAL TOaoN ELEMENT OFamSYMPTOTICALLY EQUAL TOaxCHECK MARK
akEQUAL TOafIVALENT TOanGREATER-THANamIDENTICAL TOamLESS-THANajNORMAL SUBGROUP OFaa OR EQUAL TO
bePARALLEL TOalSIGNadQUARE IMAGE OF OR EQUAL TOauORIGINAL OF OR EQUAL TObeTILDEaeRUE
afCHED LEFT SEMICIRCLE WITH THREE DOTSbeOWER RIGHT-SHADOWED WHITE RIGHTWARDS ARROW
brRIGHT SEMICIRCLE WITH THREE DOTSbgUPPER RIGHT-SHADOWED WHITE RIGHTWARDS ARROWbwEaa PADabGE
afBOOKaa WITH DECORATIVE COVERbdULaaLacMBER EIGHTEEN FULL STOParLEVEN FULL STOP
aqFIFTEEN FULL STOPaqOURTEEN FULL STOPasNINETEEN FULL STOPasSEVENTEEN FULL STOPasIGN
acXTEEN FULL STOParTEN FULL STOPamHIRTEEN FULL STOParWELVE FULL STOPanNTY FULL STOPauERO SIGN
ajSHU CHARACTER-1B170ab1ab2ab3ab4ab5ab6ab7ab8ab9abAabBabCabDabEabFac80ab1ab2ab3ab4ab5ab6ab7ab8
ab9abAabBabCabDabEabFac90ab1ab2ab3ab4ab5ab6ab7ab8ab9abAabBabCabDabEabFacA0ab1ab2ab3ab4ab5ab6ab7
ab8ab9abAabBabCabDabEabFacB0ab1ab2ab3ab4ab5ab6ab7ab8ab9abAabBabCabDabEabFacC0ab1ab2ab3ab4ab5ab6
ab7ab8ab9abAabBabCabDabEabFacD0ab1ab2ab3ab4ab5ab6ab7ab8ab9abAabBabCabDabEabFacE0ab1ab2ab3ab4ab5
ab6ab7ab8ab9abAabBabCabDabEabFacF0ab1ab2ab3ab4ab5ab6ab7ab8ab9abAabBabCabDabEabFad200ab1ab2ab3ab4
ab5ab6ab7ab8ab9abAabBabCabDabEabFac10ab1ab2ab3ab4ab5ab6ab7ab8ab9abAabBabCabDabEabFac20ab1ab2ab3
ab4ab5ab6ab7ab8ab9abAabBabCabDabEabFac30ab1ab2ab3ab4ab5ab6ab7ab8ab9abAabBabCabDabEabFac40ab1ab2
ab3ab4ab5ab6ab7ab8ab9abAabBabCabDabEabFac50ab1ab2ab3ab4ab5ab6ab7ab8ab9abAabBabCabDabEabFac60ab1
ab2ab3ab4ab5ab6ab7ab8ab9abAabBabCabDabEabFac70ab1ab2ab3ab4ab5ab6ab7ab8ab9abAabBabCabDabEabFac80
ab1ab2ab3ab4ab5ab6ab7ab8ab9abAabBabCabDabEabFac90ab1ab2ab3ab4ab5ab6ab7ab8ab9abAabBabCabDabEabF
acA0ab1ab2ab3ab4ab5ab6ab7ab8ab9abAabBabCabDabEabFacB0ab1ab2ab3ab4ab5ab6ab7ab8ab9abAabBabCabDabE
abFacC0ab1ab2ab3ab4ab5ab6ab7ab8ab9abAabBabCabDabEabFacD0ab1ab2ab3ab4ab5ab6ab7ab8ab9abAabBabCabD
abEabFacE0ab1ab2ab3ab4ab5ab6ab7ab8ab9abAabBabCabDabEabFacF0ab1ab2ab3ab4ab5ab6ab7ab8ab9abAabB
apITERATION MARKasT AND BOLTalYIAKENG PUACHUE HMONG CIRCLED CAakDIGIT EIGHTafFIVEadOURaeNINE
aeONEadSEVENaeIXadTHREEaeWOadZEROakLETTER AaaAacCAacDAabLAadEaaEacFAacGAacHAaaHadIabKAacLAacMA
abLAadNAabCAacKAacPAabLAadQAacRAacTAabSAacXAadYAadOaaOacPAabLAadQAacRAabRAadSAacTAabSAacXAadU
abVAacWabXAabYAadYAacZAaiOGOGRAM NYAJanSIGN FOR ANIMALagINVERTEBRATEamLOCATIONaiPERSONagTHING
ajXW XWajYLLABLE LENGTHENERatTONE-BabDabGabJabMabSabVbdOBJECT REPLACEMENT CHARACTER
baLIQUE ANGLE OPENING DOWNaeUPaqHYPHENamSERVER EYE SYMBOLasCR AMOUNT OF CHECKapBELT BUCKLE
akOW TIEagRANCH BANK IDENTIFICATIONbaCHAIRaeUSTOMER ACCOUNT NUMBERaxDASHadOUBLE BACKSLASHaqFORK
aeHOOKaeINVERTED FORKapTAGONAL SIGNalOPUSagDENadFFICE BUILDINGaoGHAM FEATHER MARKamLETTER AILM
aeBEITHafCEIRTaeOLLaeDAIRaeEABHADHafDHADHafMHANCHOLLalFEARNafGORTaeIFINadODHADHahLUISaeMUIN
aeNGEADALagIONaeONNacRacPEITHafRUISaeSAILadTRAIFagTINNEafUATHadILLEANNahRajREVERSED FEATHER MARK
avSPACE MARKaoONEKafHM SIGNahIL DRUMahK HAND SIGNalL CHIKI AHADaeDIGIT EIGHTafFIVEadOURaeNINE
aeONEadSEVENaeIXadTHREEaeWOadZEROakGAAHLAA TTUDDAAGaqLETTER AAJabKabMabWacGabLabNGacTacEDDacNabP
abRRadIHabNYacRabSacLAaaAacEabIabOabUacOBabHabTTacVacUCabDabNNacYajMU TTUDDAGai-GAAHLAA TTUDDAAG
atPHAARKAAahUNCTUATION DOUBLE MUCAADanMUCAADasRELAAamD CHINESE HOOK MARKajITERATION MARK
awHUNGARIAN CAPITAL LETTER AaaAabKabMBacNDadCLOSE EahEaaBabCaaHabSacDabEabFabGaaYacHabJabKabLaaY
acMaaPacNaaCabTaa-SHAPED SIGNanYacPabRabSaaZacTaaYacVabZaaSadIaaIacNIKOLSBURG OEacUEanOaaEEacO
acRUDIMENTA OEacUEamSHORT ERaiUaaNKacSabUarNUMBER FIFTYadVEaeONEaa HUNDREDahTHOUSANDamTEN
akSMALL LETTER AaaAabKabMBacNDadCLOSE EahEaaBabCaaHabSacDabEabFabGaaYacHabJabKabLaaYacMaaPacNaaC
abTaa-SHAPED SIGNanYacPabRabSaaZacTaaYacVabZaaSadIaaIacNIKOLSBURG OEacUEanOaaEEacOacRUDIMENTA OE
acUEamSHORT ERaiUaaNKacSabUazITALIC LETTER AabBEacCHEadDEacEaaFabKSacLabMabNabRaaSacSaaHabSadHE
acIaaIacKAabEabHEacUacNORTHERN TSEamOabPEabHEadSHEacOUTHERN TSEamTEabHEadUaaUacVEacYEacZE
ajNUMERAL FIFTYadVEaeONEadTENasKEYadNORTH ARABIAN LETTER AINacLEFaeBEHadDADabLadES-1ab2ab3aeFEH
adGEEMadHAINafHAHacEHadKAFacHAHaeLAMadMEEMaeNOONaeQAFadREHadSADadTAHacEHacHALacEHaeWAWadYEHadZAH
abINalNUMBER ONEadTENacWENTYbbPERMIC LETTER ANacBURadCHERYafDOIacZHOIadITAafEaaFacGAIadHAacIaaA
abEacKOKEaeLEIadMENOEafNENOEafOaaOacPEEIaeREIadSHCHOOIafOOIaeIIadTAIacSIUaeUabVERacOOIaeYAaaT
acERaaIabUadRYacUacZATAadHOIapSIAN NUMBER HUNDREDahONEadTENacWENTYaeOakSIGN AaaURAMAZDAAaa-2acHA
amBAaaGAadUUMISHahCAacDAaaHYAAUSHaa-2akIabUacFAacGAabUacHAacIabJAabIacKAabUacLAacMAabIabUacNAabU
acPAacRAabUacSAabHAacSAadTAabHAacUacUabVAabIacXAabSHAAYATHIYAamYAacZAahWORD DIVIDER
aqONAL COMPUTERarSOGDIAN FRACTION ONE HALFarLETTER ALEPHadTERNATE AYINanYINaeBETHaeFINAL ALEPH
afBETHaeHEacNUNaa WITH VERTICAL TAILawSADHEaa WITH VERTICAL TAILayTAWaa WITH VERTICAL TAIL
bcGIMELafHEaaTHaeKAPHaeLAMEDHagMEMadNUNadPEacRESH-AYIN-DALETHaqSADHEadMEKHafHINaeTAWadWAWadYODH
aeZAYINalIGATURE AYIN-DALETHauNUMBER FIVEadOURaeONEaa HUNDREDalTENacHIRTYaeREEaeWENTYaeO
aqUTH ARABIAN LETTER ALEFadYNadBETHaeDALETHafHADHEadLETHahFEacGHAYNaeIMELafHEaaTHaeKAPHadHETH
afLAMEDHagMEMadNUNadQOPHaeRESHaeSADHEadMEKHaeTacHINaeTAWacETHadHAWacETHafWAWadYODHaeZAYN
alNUMBER FIFTYafONEahERIC INDICATORbfTURKIC LETTER ORKHON AaaBabDabEBabDabGabKabLabNabRabSabTabY
acGabLabNabQabRabSaaHacTabYacBASHaeECabLTacMabNCabGabTabYacPabSHacZacIaaCabQacOaaEaaKacPabQabT
ajYENISEI AaaBabDabEaaBabGabKabNaaGacTabYacGabLabNGacQabRabSHacTabYacEaaCabNCabTabYacSHacZacIaaQ
acOEaaKacQayUYGHUR COMBINING DOT ABOVEafBELOWajTWO DOTS ABOVEafBELOWayLETTER ALEPHafBETH
aeFINAL HETHakGIMEL-HETHakKAPHaeLAMEDHafESHaeMEMadNUNadPEacRESHaeSADHEadMEKHafHINaeTAWadWAW
adYODHaeZAYINamPUNCTUATION BARadFOUR DOTSajTWO BARSaeDOTSbcER ADULTafMANadWOMANajIVEaeM SYMBOL
aiN WITH EXCLAMATION MARK WITH LEFT RIGHT ARROW ABOVEbyCOMING AUTOMOBILEakBUSadFIRE ENGINE
alPOLICE CARakTAXIalE BUTTON MOUSEamDOT LEADERagOVER TWO DOTS PUNCTUATIONbe-PIECE SWIMSUITaqION
aePEN BOOKacXadCENTRE ASTERISKaiBLACK STARakCROSSafTEARDROP-SPOKED ASTERISKbfFILE FOLDERakOLDER
agHANDS SIGNakLOCKaeMAILBOX WITH LOWERED FLAGamRAISED FLAGaySUBSETaePERSET
aj-CIRCUIT-OUTPUT H-TYPE SYMBOLanL-TYPE SYMBOLbcOUTLINED RIGHTWARDS ARROWbbRATING SYSTEM COMMAND
awHIUCHUSahPOSITIONaiTICAL DISCaa ICONanON KEYajR WITH DOT INSIDEaqANGE BOOKaeHEARTahUTAN
ahIGINAL OFaiYA AI LENGTH MARKanU LENGTH MARKaoDIGIT EIGHTafFIVEadOURaeNINEaeONEadSEVENaeIX
adTHREEaeWOadZEROakFRACTION ONE EIGHTHagHALFaeQUARTERahSIXTEENTHanTHREE QUARTERSaiSIXTEENTHS
azISSHARagLETTER AaaAabIabUacBAabHAadCAabHAadDAabDAabHAadHAadEabGAabHAadHAacIaaIacJAabHAadKAabHA
adLAabLAadMAacNAabGAacNAacYAadOabPAabHAadRAabHAacRAadSAabHAacSAadTAabHAacTAabHAaeUaaUacVA
abOCALIC LaaLacRaaRakWAacYAabYAakSIGN ANUSVARAahVAGRAHAaiCANDRABINDUalNUKTAafOVERLINEaiVIRAMA
aeSARGAamVOWEL SIGN AAabIabUacEabIaaIacOabUaaUacVOCALIC LaaLacRaaRazNATE LEFT PARENTHESIS
aqRIGHT PARENTHESISawTHODOX CROSSanSAGE CAPITAL LETTER AaaHabIaaNadBRAadCHAadDHAadEaaHCHAadKA
acPAacTAabSAaeINadGHAadHAabYAadIabKAabHAacYAadLAacMAacNAacOaaINadPAacSAabHAadTAabSAabHAaeUabWA
acZAabHAasSMALL LETTER AaaHabIaaNadBRAadCHAadDHAadEaaHCHAadKAacPAacTAabSAaeINadGHAadHAabYAadI
abKAabHAacYAadLAacMAacNAacOaaINadPAacSAabHAadTAabSAabHAaeUabWAacZAabHAauCabMANYA DIGIT EIGHT
afFIVEadOURaeNINEaeONEadSEVENaeIXadTHREEaeWOadZEROakLETTER AaaAabLEFaeBAacCAYNaeDEELadHAadEaaE
acFAacGAacHAacIabJAacKAAFadHAadLAANaeMIINaeNUUNaeOaaOacQAAFaeRAacSAabHIINafTAacUabWAWadXAacYA
aqTTERacOMAN SIYAQ ALTERNATE NUMBER EIGHTafFIVEadOURaa HUNDREDamNINEaeSEVENaeIXaa HUNDREDalTEN
aa THOUSANDalHREEaeWOaa THOUSANDbdFRACTION ONE HALFaeSIXTHasMARRATANaiNUMBER EIGHTaa HUNDRED
ahTHOUSANDajYaa THOUSANDapFIFTYaa THOUSANDamVEaa HUNDREDahTHOUSANDamORTYaa THOUSANDamUR
aa HUNDREDahTHOUSANDanNINEaa HUNDREDahTHOUSANDajTYaa THOUSANDapONEaa HUNDREDahTHOUSANDamSEVEN
aa HUNDREDahTHOUSANDajTYaa THOUSANDapIXaa HUNDREDahTHOUSANDajTYaa THOUSANDaoTENaa THOUSAND
alHIRTYaa THOUSANDanREEaa HUNDREDahTHOUSANDanWENTYaa THOUSANDanOaa HUNDREDahTHOUSANDbgUNCE SIGN
aiTBOX TRAYaiLINED BLACK STARakGREEK CROSSalLATIN CROSSalWHITE STARasVERHEATED FACEalLAP
aaPING BLACK SQUARESanWHITE AND BLACK SQUARESarSQUARESauINEahWLacXabYSTERagPACKAGEafD
aaDING CHARACTERapGEaa FACING UPajWITH CIRCLED TEXTalURLakRabSacODAaeHAWH HMONG CLAN SIGN FAJ
adHAMabWJaeKHABadOOacWMadLAUJadISadMUASaePHABaeTHOJadSABacHEEJaeWBaeVAJacWJadXYOOJafYAJacEEG
anONSONANT AUacCAUacHAUaeHAUacLAUadNAUaeLAUadMAUadNAUacCHAUaeKAUadLAUadTHAUadSAUafPLHAUafQHAU
aeRAUadVAUadXAUadYAUanDIGIT EIGHTafFIVEadOURaeNINEaeONEadSEVENaeIXadTHREEaeWOadZERO
akMARK CIM HOMadKESacHAVaeSOabUAMaeTAUMadUBamNUMBER HUNDRED MILLIONSajSaiMILLIONSaiTEN BILLIONS
aiTHOUSANDSakSadRILLIONSaqSIGN AVacCIM CHEEMaeUAM TSHOOJalHAIS LUS NTOG NTOGasNRES TOSaiPUB DAWB
aiTSOV ROGahXWVaa CHWVanHLIacNUBaeIB YAMagLOSadMEEJ SUABaeTSEEBajUSadNQIGadTUJaeTAU
acHIRD-STAGE HLIaoXHEEJ CEEValVOS FEEMaeLUBadNRUAaeSEEVaeTHIABadOMadSHAB CEEBaoXAUSadIAB
adYEEM FAIBaeNTXIVafRHOadTOVahOOaeZWJ THAJanVOWEL KAABabVacBabIBabVacUBabVacVabWBabVadEBabEBabV
acVacIABabVacBabVacOBabOBabVacVacUABabVacBabVacWBabVauLLASadM BRANCHagDOWN HANDajTREEaeUP HAND
aiS UP TOGETHERanYRENE LEFT-POINTING FLEURONatTTER ALEPHaeYINaeBETHaeDALETHagFINAL NUNajGIMEL
afHEaaTHaeKAPHaeLAMEDHagMEMadNUNadPEacQOPHaeRESHaeSADHEadMEKHafHINaeTAWacETHaeWAWadYODHaeZAYIN
amNUMBER FIVEadOURaeONEadTENacHREEaeWENTYaeOakRIGHT-POINTING FLEURONbeNCAKESafDA FACEaiPERCLIP
ahRACHUTEafGRAPH SEPARATORakOSacUS MARKamLLEL TOacWITH HORIZONTAL STROKEarTILDE OPERATOR
azENTHESIZED DIGIT EIGHTafFIVEadOURaeNINEaeONEadSEVENaeIXadTHREEaeWOajHANGUL CHIEUCHaa AaiIEUC
aa AabUahHIEUHaa AahIEUNGaa AahKHIEUKHaa AaiIYEOKaa AaiMIEUMaa AahNIEUNaa AahPHIEUPHaa AaiIEUP
aa AahRIEULaa AahSIOSaa AagTHIEUTHaa AaiIKEUTaa AapIDEOGRAPH ALLIANCEaiCALLadONGRATULATION
aoEARTHaeIGHTaeNTERPRISEakFESTIVALahINANCIALahREacVEadOURaeHAVEaeLABORafMETALaeOONaeNAMEadINE
aeONEadREACHadPRESENTahSOURCEafTaeSELFacVENaeIXacOCIETYagPECIALagTOCKadUDYaeUNabPERVISEajTEN
acHREEaeWOadWATERaeOODaoKOREAN CHARACTER O HUadJEONawLATIN CAPITAL LETTER AabBabCabDabEabFabGabH
abIabJabKabLabMabNabOabPabQabRabSabTabUabVabWabXabYabZaqSMALL LETTER AabBabCabDabEabFabGabHabI
abJabKabLabMabNabOabPabQabRabSabTabUabVabWabXabYabZauNUMBER EIGHTEENahLEVENagFIFTEENagOURTEEN
aiNINETEENaiSEVENTEENaiIXTEENahTENacHIRTEENahWELVEadNTYayROTadT ALTERNATION MARK
arIAL DIFFERENTIALamLINE BACKWARDaiDOWNaeFORWARDahUPaiLY-RECYCLED PAPER SYMBOLbbNERSHIP SIGN
amY POPPERakSSED SYMBOLaiNGER SHIPakIVE-PULL-DOWN-OUTPUT SYMBOLasUP-OUTPUT SYMBOLazPORT CONTROL
aoU CIN HAU GLOTTAL STOPaa FINALafVARIANTauLETTER AabBAacCAabHAadDAacEabFAabINAL KabLabMabNaaG
acPabTabWabYahGAacHAacIaaAacKAabHAadLAacMAacNAabGAadOabPAabHAadRAacSAacTAabHAadUaaAacVAacZA
aiOW-FALLING TONEaa FINALafLONGaa FINALbbMID-LEVEL TONEaa FINALafLONG FINALazRISING TONEaa FINAL
afLONGaa FINALawSANDHI GLOTTAL STOPaa FINALasTONEaa FINALafLONGaa FINALbgW PRINTSajDFabI
acEACE SYMBOLaiHabOCKaeNUTSaeRacDESTRIANaiN OVER STAMPED ENVELOPEawCILadGUINaeSIVE FACEajTAGRAM
ahOPLE HUGGINGamR MILLE SIGNakSIGNaeTEN THOUSAND SIGNasCENT SIGNajFORMING ARTS
amMANENT PAPER SIGNarPENDICULARaa WITH SarSEVERING FACEamON BOWING DEEPLYanCLIMBING
aiDOING CARTWHEELapFROWNINGaiIN LOTUS POSITIONaoSTEAMY ROOMaoRAISING BOTH HANDS IN CELEBRATION
bhWITH BALLadLOND HAIRakCROWNafFOLDED HANDSamHEADSCARFajPOUTING FACEasAL COMPUTERanPECTIVE
ajSETA SIGNaiO SIGNahTRI DISHajHAGS-PA DOUBLE HEAD MARKaqLETTER AaaLTERNATE YAalSPIRATED FAamBA
acCAaaNDRABINDUakHAadDAabDAacZAadEaaEacFAacGAabGAadHAacIabJAacKAabHAadLAacMAacNAabGAacNAacYAadO
abPAabHAadQAacRAacSAabHAacMALL AahTAabHAacSAabHAadTAabHAaeUabVOICED HAaeLESS SHAanWAacXAacYAacZA
abHAakMARK DOUBLE SHADalSHADajSINGLE HEAD MARKapUBJOINED LETTER RAacWAacYAarPERFIXED LETTER RA
baISTOS DISC SIGN ARROWafBEEaaHIVEagOOMERANGahWacULLS LEGajCAPTIVEafRPENTRY PLANEanTacHILDaeLUB
adOLUMNaeMBaaINING OBLIQUE STROKEayDOLIUMaeVEaeEAGLEafFLUTEafGAUNTLETahRATERagHELMETafIDEadORN
aeLIDabLYaeMANACLESagTTOCKahOX BACKahPAPYRUSagEDESTRIANajLANE TREEaiUMED HEADalRAMacOSETTEahSAW
acHIELDadPadLINGaeMALL AXEaiTRAINERaiTATTOOED HEADamIARAaeUNNYafVINEaeWAVY BANDaiOMAN
awILIPPINE DOUBLE PUNCTUATIONasSINGLE PUNCTUATIONbbOENICIAN LETTER AINacLFadBETadDELTaeGAMLaeHE
aaTadKAFadLAMDaeMEMadNUNadPEacQOFadROSHaeSADEadEMKadHINaeTAUacETadWAUadYODadZAIakNUMBER ONE
aa HUNDREDalTENacHREEaeWENTYaeOakWORD SEPARATORawLUSafICKaaUP TRUCKakEabGaa FACEaeNOSE
agLCROW SIGNajE OF POOaiLacNATAadCHED FINGERSakING HANDakE DECORATIONalAPPLEagWHEEL STARalSCES
adTOLaeTCHFORKaa WITH TEE TOPavLACARDadE OF INTEREST SIGNanWORSHIPanNCK CONSTANTaa OVER TWO PI
ayYGROUND SLIDEamING CARD ACE OF CLUBSafDIAMONDSaiHEARTSagSPADESanBACKadLACK JOKER
alEIGHT OF CLUBSafDIAMONDSaiHEARTSagSPADESapFIVE OF CLUBSafDIAMONDSaiHEARTSagSPADESanOOL
acUR OF CLUBSafDIAMONDSaiHEARTSagSPADESaoJACK OF CLUBSafDIAMONDSaiHEARTSagSPADESaoKING OF CLUBS
afDIAMONDSaiHEARTSagSPADESanNIGHT OF CLUBSafDIAMONDSaiHEARTSagSPADESaqNINE OF CLUBSafDIAMONDS
aiHEARTSagSPADESaoQUEEN OF CLUBSafDIAMONDSaiHEARTSagSPADESapRED JOKERajSEVEN OF CLUBSafDIAMONDS
aiHEARTSagSPADESaoIX OF CLUBSafDIAMONDSaiHEARTSagSPADESanTEN OF CLUBSafDIAMONDSaiHEARTSagSPADES
amHREE OF CLUBSafDIAMONDSaiHEARTSagSPADESaoRUMP-1aa0ab1ab2ab3ab4ab5ab6ab7ab8ab9ac2aa0ab1ac3ab4
ab5ab6ab7ab8ab9agWO OF CLUBSafDIAMONDSaiHEARTSagSPADESanWHITE JOKERawDabUaaNGERaeS SIGN
aa ABOVE EQUALS SIGNarIN LEFT HALF CIRCLEaqRIGHT HALF CIRCLEarTRIANGLEalWITH BLACK TRIANGLE
aoCIRCUMFLEX ACCENT ABOVEaxDOT BELOWajSMALL CIRCLE ABOVEarUBSCRIPT TWOanTILDE ABOVEafBELOW
aw-MINUS SIGNamTOaa FORM FIVEadOURaeTHREEaeWOanMabOCKET CALCULATORapLICE CARaaS REVOLVING LIGHT
auOFFICERamODLEaeP DIRECTIONAL FORMATTINGakISOLATEauCORNafRTABLE STEREOanSEIDONafITION INDICATOR
apTAL HORNaeMARKaa FACEamBOXafT OF FOODaiABLE WATER SYMBOLaqTOadTED PLANTakUCHacLTRY LEG
aiND SIGNahRING LIQUIDalTING CAT FACEaiFACEakWER ON SYMBOLah-OFF SYMBOLanSLEEP SYMBOLalYMBOL
alRAYER BEADSakECEDESaa ABOVE ALMOST EQUAL TOapEQUALS SIGNalNOT ALMOST EQUAL TOapEQUAL TO
amSINGLE-LINE EQUALS SIGNalNOT EQUAL TObeBUT NOT EQUIVALENT TOavOR EQUAL TOafIVALENT TO
aqUNDER RELATIONauGNANT MANadPERSONagWOMANalSCRIPTION TAKEanENTATION FORM FOR VERTICAL COLON
adMMAafEM DASHagN DASHagXCLAMATION MARKaqHORIZONTAL ELLIPSISatIDEOGRAPHIC COMMAafFULL STOP
avLEFT ANGLE BRACKETanBLACK LENTICULAR BRACKETayCORNER BRACKETanURLY BRACKET
anDOUBLE ANGLE BRACKETauPARENTHESISalSQUARE BRACKETaoTORTOISE SHELL BRACKET
awWHITE CORNER BRACKETaoLENTICULAR BRACKETbcOW LINEaiQUESTION MARKanRIGHT ANGLE BRACKET
anBLACK LENTICULAR BRACKETayCORNER BRACKETanURLY BRACKETanDOUBLE ANGLE BRACKETauPARENTHESIS
alSQUARE BRACKETaoTORTOISE SHELL BRACKETawWHITE CORNER BRACKETaoLENTICULAR BRACKETaeKCET
beSEMICOLONajTWO DOT LEADERaoWAVY LOW LINEbpTZELaeVIOUS PAGEalIMEacNCEaaSSaeT SCREEN SYMBOLaoER
aa ICONajVACY MESSAGEakTE USE ONEadTWOae-1ab2alOBING CANEajHIBITED SIGNamJECTIVEahPERTY LINE
ajORTIONaaAL TOamSERPINAajSALTER PAHLAVI FOUR DOTS WITH CROSSafDOTasLETTER ALEPHafBETHaeDALETH
agGIMELafHEaaTHaeKAPHaeLAMEDHagMEM-QOPHaiNUNadPEacSADHEadMEKHafHINaeTAWadWAW-AYIN-RESHanYODH
aeZAYINamNUMBER FOURaeONEaa HUNDREDalTENacHREEaeWENTYaeOakSECTION MARKamTURNED SECTION MARKbiU1
ab2abBLIC ADDRESS LOUDSPEAKERayNCTUATION SPACEalS ELEVATUS MARKatRPLE HEARTajSEadSHPIN
afT LITTER IN ITS PLACE SYMBOLbeQUADRANT LOWER LEFTaeRIGHTalUPPER LEFT
aa AND LOWER LEFT AND LOWER RIGHTauRIGHTalUPPER RIGHT AND LOWER LEFTaeRIGHTbkRIGHT
aa AND LOWER LEFTaa AND LOWER RIGHTbuUPLE INTEGRAL OPERATORarPRIMEamRTER NOTE
ajTERNION INTEGRAL OPERATORbaESTION EXCLAMATION MARKaqMARKafED EQUAL TOarINCUNXagOTATION MARK
aoRABBITaa FACEajCCOONaeING CARadMOTORCYCLEapDICAL SYMBOL BOTTOMarOaa BUTTONahACTIVE SIGN
aoILWAY CARadTRACKakNaaBOWaeSED BACK OF HANDamCOMMAafDOTaaTED INTERPOLATION MARKERbbFISTaeHAND
aa WITH FINGERS SPLAYEDapPART BETWEEN MIDDLE AND RING FINGERSbuINTERPOLATION MARKERauMC SIGN
agD SIGNagR SIGNahSQUAREalMabTaaIOadZORaeECEIPTaeORD SEPARATORanREATIONAL VEHICLE
arYCLED PAPER SYMBOLapING SYMBOL FOR GENERIC MATERIALSarTYPE-1 PLASTICSak2 PLASTICSak3 PLASTICS
ak4 PLASTICSak5 PLASTICSak6 PLASTICSak7 PLASTICSbiD APPLEafGIFT ENVELOPEapFERENCE MARK
amGIONAL INDICATOR SYMBOL LETTER AabBabCabDabEabFabGabHabIabJabKabLabMabNabOabPabQabRabSabTabU
abVabWabXabYabZbeSTERED SIGNanJANG CONSONANT SIGN HabNaaGacRaqLETTER AabBAacCAacDAacGAacHAacJA
acKAacLAacMAabBAadNAabDAacGAabGAadYAabJAaePAacRAacSAacTAacWAacYAajSECTION MARKamVIRAMA
afOWEL SIGN AIabUacEaaAabUacIabOabUarLIEVED FACEalMINDER RIBBONanPLACEMENT CHARACTERatSPONSE
afTRICTED LEFT ENTRY-1ab2asOOMagTURN LEFTaeRIGHTafSYMBOLalVERSE CHECKER BOARDanINDEX
afLIGHT FOUR POINTED PINWHEEL STARbeNE FEEDajSOLIDUSaa OPERATORaiPRECEDING SUBSET
aqWITH HORIZONTAL STROKEbeTILDE OPERATOR ABOVE LEFTWARDS ARROWapRIGHTWARDS ARROWbmD ANGLE
aa WITH UNDERBARatCOMMAafDOUBLE PRIMEaa QUOTATION MARKauSTROKE NOT SIGNawEMPTY SET
ajFORKED PARAGRAPHOSasHAND WITH MIDDLE FINGER EXTENDEDbgNOT SIGNaiPILCROW SIGNalRIME
afQUESTION MARKanRAISED HAND WITH FINGERS SPLAYEDbfIGHT ANGLEakOTATED FLORAL HEART BULLET
bbSANS-SERIF CAPITAL LatEMICOLONajTHUMBS DOWN SIGNajUP SIGNanILDEaa EQUALSalRIPLE PRIME
amVICTORY HANDasOLVING HEARTSapHINOCEROSajIaaAL SIGNahBBONaa ARROW DOWN LEFTaeRIGHTakLEFT DOWN
aeUPahRIGHT DOWNaeUPaiUP LEFTaeRIGHTatCE BALLaeCRACKERakFLEadGHT AND LOWER ONE EIGHTH BLOCK
awUPPER ONE EIGHTH BLOCKayGER BUBBLEajLEaa BRACKETaa WITH DOTaqDOTTED SUBSTITUTION MARKER
baSUBSTITUTION MARKERatVARIANT WITH SQUAREatWITH ARCadDOWNWARDS ZIGZAG ARROW
bgRC GREATER-THAN BRACKETawROW WITH CIRCLED PLUSamSMALL CIRCLEaxBLACK LENTICULAR BRACKET
asTORTOISE SHELL BRACKETbcCEILINGagORNER BRACKETanURLY BRACKETaa LOWER HOOKakMIDDLE PIECE
amUPPER HOOKayDOTTED SUBSTITUTION BRACKETazUBLE ANGLE BRACKETamRROW WITH ROUNDED HEAD
axPARENTHESISalQUOTATION MARKaoWIGGLY FENCEatFISH TAILahVE EIGHTHS BLOCKarLOOR
afHALF BLACK CIRCLEagSTARaiOCKafFOLDERagMEDIUM SHADEamRUNNING MANaoND TELEPHONE RECEIVER
axLOW PARAPHRASE BRACKETawNORMAL FACTOR SEMIDIRECT PRODUCTbgONE EIGHTH BLOCKamQUARTER BLOCK
aqPEN SQUARED DOTapUTER JOINakPARENTHESISaa EXTENSIONajLOWER HOOKakUPPER HOOK
awRAISED OMISSION BRACKETaxS-SHAPED BAG DELIMITERavEMIDIRECT PRODUCTaqVEN EIGHTHS BLOCK
asIDEWAYS U BRACKETaqNGLE QUOTATION MARKauPEAKERaa WITH ONE SOUND WAVEaoTHREE SOUND WAVES
bbECH BUBBLEamQUARE BRACKETaa EXTENSIONajLOWER CORNERamUPPER CORNERamWITH DOUBLE STROKEanQUILL
afSTROKEagTICK IN BOTTOM CORNERanTOP CORNERasUNDERBARbbUBSTITUTION BRACKETauTACK
adHIRD WHITE RIGHT POINTING INDEXbeOUGHT BUBBLEamREE EIGHTHS BLOCKanQUARTERS BLOCK
atORTOISE SHELL BRACKETavRANSPOSITION BRACKETatIANGLEaa ABOVE LEFT TRIANGLE
awULAR ONE QUARTER BLOCKbcVERTICAL BAR WITH QUILLanOX LINEarWHITE CORNER BRACKETanURLY BRACKET
anLENTICULAR BRACKETasPARENTHESISalSQUARE BRACKETaoTORTOISE SHELL BRACKETbbIGGLY FENCE
an-FACING ARMENIAN ETERNITY SIGNawFISTaeSVASTI SIGNaa WITH DOTSbcHANDED INTERLACED PENTAGRAM
bbPOINTING ANGLE BRACKETanCURVED ANGLE BRACKETauDOUBLE ANGLE QUOTATION MARKbbMAGNIFYING GLASS
azSHADED WHITE RIGHTWARDS ARROWbcIDE ARC CLOCKWISE ARROWayTO-LEFT EMBEDDINGajISOLATEahMARK
aeOVERRIDEarHAND INTERIOR PRODUCTavWARDS ARROWaa ABOVE ALMOST EQUAL TOapREVERSE ALMOST EQUAL TO
apTILDE OPERATORawSHORT LEFTWARDS ARROWavTILDE OPERATORatND UPPER AND LOWER ONE EIGHTH BLOCK
bkFROM BARaa TO BLACK DIAMONDazOVER LEFTWARDS ARROWauTHROUGH GREATER-THANamSUPERSETaiXaiO BAR
acLACK DIAMONDaqWITH CORNER DOWNWARDSaqDOTTED STEMajUBLE VERTICAL STROKEawEQUILATERAL ARROWHEAD
avHOOKaeLARGE TRIANGLE ARROWHEADaxOOPaeMEDIUM TRIANGLE ARROWHEADazNOTCHED TAILamPLUS BELOW
akSMALL EQUILATERAL ARROWHEADavTRIANGLE ARROWHEADaxTROKEagTAILaa WITH DOUBLE VERTICAL STROKE
awVERTICAL STROKEayIP DOWNWARDSajUPWARDSalVERTICAL STROKEav-TAIL
akBACK-TILTED SHADOWED WHITE ARROWbfLACK ARROWafCIRCLED WHITE ARROWayOTTOM SHADED WHITE ARROW
azCOMPRESSED ARROWaqDASHED ARROWalOUBLE ARROWaa FROM BARaiWITH STROKEagVERTICAL STROKEav-TAIL
akDASH ARROWarFINGER-POST ARROWaqRONT-TILTED SHADOWED WHITE ARROWbhHAND
acRPOON OVER LEFTWARDS HARPOONawWITH BARB DOWN ABOVE LEFTWARDS HARPOON WITH BARB DOWN
bmBELOW LONG DASHapFROM BARaiTO BARahWARDSajUP ABOVE LEFTWARDS HARPOON WITH BARB UPbdONG DASH
ajRIGHTWARDS HARPOON WITH BARB DOWNbnFROM BARaiTO BARahWARDSayEAVY ARROWafCOMPRESSED ARROW
awLEFT-SHADED WHITE ARROWaxOPEN-HEADED ARROWarPAIRED ARROWSanQUADRUPLE ARROW
apRIGHT-SHADED WHITE ARROWaxOCKETagSANS-SERIF ARROWapQUARED ARROWakIGGLE ARROW
aoTOP SHADED WHITE ARROWavRIANGLE ARROWHEADak-HEADED ARROW
aa OVER LEFTWARDS TRIANGLE-HEADED ARROWbkTO BARagWITH BOLD SHAFTakDOUBLE HORIZONTAL STROKE
arVERTICAL STROKEawHEAVY SHAFTalLONG TIP DOWNWARDSajUPWARDSaqMEDIUM SHAFTamNARROW SHAFT
amVERY HEAVY SHAFTbbDASHED ARROWamPAIRED ARROWSbaPLE ARROWafDASH ARROWaqWO HEADED ARROW
an-HEADED ARROW FROM BARaiWITH DOUBLE VERTICAL STROKEawTAILaa WITH DOUBLE VERTICAL STROKE
awVERTICAL STROKEayRIANGLE ARROWHEADSatVERTICAL STROKEbaTRIPLE DASH ARROWbcWAVE ARROW
ajHITE ARROWaa FROM WALLajWITHIN TRIANGLE ARROWHEADbuNGaa ABOVEafBUOYaeEQUAL TOaiIN EQUAL TO
alOPERATORaiPOINTagED PLANETajING BELLakSING DIAGONAL CROSSING FALLING DIAGONAL
aqSOUTH EAST ARROWboLEabIabMabOacOASTED SWEET POTATOasBOT FACEaiCKaaETaeLL OF PAPER
ajED-UP NEWSPAPERaoR COASTERahSKATEaiING ON THE FLOOR LAUGHINGbbMAN AS SIGNahCENTURIAL SIGN
aoDENARIUS SIGNamIMIDIA SEXTULA SIGNatUPONDIUS SIGNaoNUMERAL EIGHTaeLEVENagFIFTYaa EARLY FORM
akTHOUSANDamVEaa HUNDREDahTHOUSANDamOURaeNINEaeONEaa HUNDREDaa THOUSANDaqTHOUSANDaa C D
aqREVERSED ONE HUNDREDauSEVENaeIXaa LATE FORManTENaa THOUSANDalHREEaeWELVEaeOalQUINARIUS SIGN
aoSEMUNCIA SIGNalSTERTIUS SIGNanXTANS SIGNaiULA SIGNalILIQUA SIGNamUNCIA SIGNaoOSTERafSEaaTTE
afTATED CAPITAL QajFLORAL HEART BULLETatHEAVY BLACK HEART BULLETayLIGHT FOUR POINTED BLACK CUSP
bdWHITE FOUR POINTED CUSPbdUND PUSHPINahTARGETahED SYMBOL FOR CAIadFUacLUacSHOUacUANGXIaiXI
atWBOATagSabUBLE SIGNaiGBY FOOTBALLamLE-DELAYEDakMI DIGIT EIGHTafFIVEadOURaeNINEaeONEadSEVENaeIX
adTHREEaeWOajFRACTION ONE HALFaeQUARTERahTHIRDajTWO THIRDSatNUMBER EIGHT HUNDREDaiYagFIFTY
adVE HUNDREDalORTYadUR HUNDREDamNINE HUNDREDaiTYagONE HUNDREDalSEVEN HUNDREDaiTYagIX HUNDREDaiTY
afTENacHIRTYaeREE HUNDREDamWENTYaeO HUNDREDavNIC ARLAUG SYMBOLanBELGTHOR SYMBOL
apCROSS PUNCTUATIONarLETTER AC AadESCadLGIZ EOLHXakNSUZ AahBERKANAN BEORC BJARKAN BayCaaALC
adEALCadNacWEORTHahDaaAGAZ DAEG DalOTTED-LabNabPaiEaaARacHWAZ EH EajNGacTHadFEHU FEOH FE F
anRANKS CASKET ACabESCaeEHacISacOSaqGaaARacEBO GYFU GajRadHAEGL HafGLAZ HaiICELANDIC-YRalNGaaWAZ
afORacSAZ IS ISS IamWAZ EOHaiJERAN JahKaaAUN KacAafLAUKAZ LAGU LOGR LarONG-BRANCH-AR AE
afHAGALL HaiMADR MagOSS OafYRaoMANNAZ MAN MamNAUDIZ NYD NAUD NarOaaEabNabOabPEN-PafS O
adTHALAN ETHEL OapPERTHO PEORTH PapQabRAIDO RAD REID RaqSHaaORT-TWIG-AR AaeBJARKAN BajHAGALL H
aiMADR MagNAUD NagOSS OafSOL SafTYR TafYRamIGEL LONG-BRANCH-SOL SawOWILO SahTAN
aeTHURISAZ THURS THORNatIWAZ TIR TYR TapURUZ UR UajVabWaaUNJO WYNN WamXabYaaRacZ
aiMULTIPLE PUNCTUATIONauSINGLE PUNCTUATIONasTVIMADUR SYMBOLasNERacING SHIRT WITH SASHavPEE SIGN
aiSSIAN ASTROLOGICAL SYMBOL BINOVILEaiNOVILEagQUINTILEaiSENTAGONaiTREDECILEajVIGINTILE
blS IN TRIANGLEamAFETY PINadVESTajGITTARIUSajILBOATagKE BOTTLE AND CUParLT SHAKERahIRE
aeUTING FACEalMARITAN ABBREVIATION MARKarLETTER ALAFaeBAAacITadDALATafFIacGAMANafINabTabYacKAAF
aeLABATafMIMadNUNadQUFadRISHaeSHANadINGAATahTAAFadITacSAADIYahYUTadZENakMARK DAGESH
agEPENTHETIC YUTaoINaa-ALAFahNEQUDAAahOCCLUSIONanODIFIER LETTER EPENTHETIC YUTaoIabSHORT A
axPUNCTUATION AFSAAQafNGEDadNAAUafRKAANUagTMAAUagBAUadMELODIC QITSAanNEQUDAAahQITSAafSHIYYAALAA
ajOF MASHFAATamTURUaeZAEFadIQAAarVOWEL SIGN AaaAacEabIabLONG AaaAacEabIabUagOaaVERLONG AaaA
alSHORT AagUKUNafUauNDWICHafS-SERIF HEAVY DOUBLE COMMA QUOTATION MARK ORNAMENT
bdTURNED COMMA QUOTATION MARK ORNAMENTbrLOW DOUBLE COMMA QUOTATION MARK ORNAMENT
buINTERROBANG ORNAMENTbdRIacTELLITEaa ANTENNAaoURNaeURASHTRA CONSONANT SIGN HAARUauDANDA
aeIGIT EIGHTafFIVEadOURaeNINEaeONEadSEVENaeIXadTHREEaeWOadZEROajOUBLE DANDAamLETTER AaaAabIabU
acBAabHAadCAabHAadDAabDAabHAadHAadEaaEacGAabHAadHAacIaaIacJAabHAadKAabHAadLAabLAadMAacNAabGAacNA
acYAadOaaOacPAabHAadRAacSAabHAacSAadTAabHAacTAabHAaeUaaUacVAabOCALIC LaaLacRaaRakYA
ajSIGN ANUSVARAaiCANDRABINDUalVIRAMAaeSARGAamVOWEL SIGN AAabIabUacEaaEacIaaIacOaaOacUaaU
acVOCALIC LaaLacRaaRbcOPODagXOPHONEaiCALESadRFadHOOLaa SATCHELamIabOOTERaeRPIONacUSagREEN
acWDRIVERaiIPT CAPITAL BabEabFabHabIabLabMabPabRajLIGATURE ET ORNAMENTauSMALL EabGabLabOalOLL
adUPLEagEALabTacCOND PLACE MEDALapTION SIGNaiORaeDNAadE-NO-EVIL MONKEYapDLINGagGMENT
aaED DIGIT EIGHTafFIVEadOURaeNINEaeONEadSEVENaeIXadTHREEaeWOadZEROasLFIEaeMICOLON
afDIRECT PRODUCT WITH BOTTOM CLOSEDbhSEXTILEajPARATED SYMBOL
aoRIOUS FACE WITH SYMBOLS COVERING MOUTHblVICE MARKakSAME DOTahQUIQUADRATEamT MINUS
afTRANSMIT STATEaqWING NEEDLEalXTILEagGCacHADOWED WHITE CIRCLEagLATIN CROSSalSTAR
aqLLOW PAN OF FOODaqMROCKafRADA ABBREVIATION SIGNarCONTINUATION SIGNarDANDAaeIGIT EIGHTafFIVE
adOURaeNINEaeONEadSEVENaeIXadTHREEaeWOadZEROajOUBLE DANDAamEKAMadXTRA SHORT VOWEL MARK
awHEADSTROKEakLETTER AaaAabIabUacBAabHAadCAabHAadDAabDAabHAadHAadEabGAabHAadHAacIaaIacJAabHAadKA
abHAadLAabLAadMAacNAabGAacNAacYAadOabPAabHAadRAacSAabHAacSAadTAabHAacTAabHAaeUaaUacVAabOCALIC L
aaLacRaaRakYAajOMacSANDHI MARKakECTION MARK-1ab2amPARATORaiIGN ANUSVARAahVAGRAHAaiCANDRABINDU
alINVERTED CANDRABINDUauJIHVAMULIYAalNUKTAafSIDDHAMahUPADHMANIYAalVIRAMAaeSARGAalUTRA MARK
akVOWEL MODIFIER MARKanSIGN AAabIabUacEabIaaIacOabPRISHTHAMATRA EapUaaUacVOCALIC LaaLacRaaRazK
acVED ICEagIAN LETTER ADOacGEacHabIRacREabRAYaeSHacWEadBIBadCHURCHagDEADaeEARabTacGGacRRadFEE
adGAGadHA-HAaeUNGaeIANacCEacFacJUDGEafKICKaeLOLLaeMEASUREagIMEaeNUNadOAKacILacNabOZEadRabUT
adPEEPaeROARaeSOabUREaeTHEYacIGHaeOTadUPacVOWadWOEabOLaeYEAabWadZOOaqEEPadIELDadFT INacOUT
agNTO SHRINEakPacOCKED FACE WITH EXPLODING HEADbdOTING STARakPPING BAGSaeTROLLEY
anRT BACKSLANTED SOUTH ARROWawENT ARROW POINTING DOWNWARDS THEN NORTH EASTbtDOWN TACK
aa WITH OVERBARawLEFT TACKajRIGHTWARDS ARROW ABOVE LEFTWARDS ARROWbmSLANTED NORTH ARROWatUP TACK
aa ABOVE SHORT DOWN TACKavWITH UNDERBARawCAKEaeHAND FORMAT CONTINUING OVERLAPasDOWN STEP
ajLETTER OVERLAPaoUP STEPatSadULDERED OPEN BOXaqWERaeRIMPadUGadUFFLE PRODUCTanYacIaaDDHAM DANDA
aeOUBLE DANDAamEND OF TEXT MARKaqLETTER AaaAabIabLTERNATE UakUacBAabHAadCAabHAadDAabDAabHAadHA
adEabGAabHAadHAacIaaIacJAabHAadKAabHAadLAacMAacNAabGAacNAacYAadOabPAabHAadRAacSAabHAacSAadTAabHA
abREE-CIRCLE ALTERNATE IaxTAabHAadWO-CIRCLE ALTERNATE IaaIaxUaaUacVAabOCALIC LaaLacRaaRakYA
ajREPETITION MARK-1ab2ab3arSECTION MARK DOUBLE RINGaa WITH RAYS
avWITH CIRCLES AND FOUR ENCLOSURESapRAYSaeTWO ENCLOSURESbaDOUBLE CRESCENTSaqQUADRUPLE CRESCENTS
atRAYS AND DOTTED CRESCENTSajDOUBLE CRESCENTSaqTRIPLE CRESCENTSbgSEPTUPLE CRESCENTS
asTRIDENT AND DOTTED CRESCENTSaqU-SHAPED ORNAMENTSbbPLE CRESCENTSbgPARATOR BARadDOT
amIGN ANUSVARAaiCANDRABINDUalNUKTAafSIDDHAMahVIRAMAaeSARGAamVOWEL SIGN AAabIabLTERNATE UaaUalU
acEabIaaIacOabUaaUacVOCALIC RaaRbaEWAYS BLACK DOWN POINTING INDEXatLEFT POINTING INDEX
atRIGHT POINTING INDEXauUP POINTING INDEXaxWHITE DOWN POINTING INDEXatLEFT POINTING INDEX
atRIGHT POINTING INDEXauUP POINTING INDEXbeGN OF THE HORNSanWRITING AIR BLOW SMALL ROTATIONS
aqING OUTalSUCK SMALL ROTATIONSaqING INaoBREATH EXHALEagINHALEalUSH BETWEENahMULTIPLEaiSINGLE
amCHEEKS NEUTRALahPUFFEDagSUCKEDamOLONadMMAafDREAMY EYEBROWS DOWN NEUTRALamNEUTRAL DOWNaeUP
akUP NEUTRALazYNAMIC ARROWHEAD LARGEafSMALLapEVERY OTHER TIMEaqFASTaeGRADUALahRELAXED
ahSIMULTANEOUSaa ALTERNATINGaxLOWaeTENSEanEARSadXCITEMENTajYE BLINK MULTIPLEaiSINGLEamWINK
afBROWS STRAIGHT DOWNaeNEUTRALahUParGAZE-FLOORPLANE CURVEDagSTRAIGHTaa ALTERNATINGalDOUBLE
baWALLPLANE CIRCLINGahURVEDagSTRAIGHTaa ALTERNATINGalDOUBLEbeLASHES DOWNaeFLUTTERINGakUP
ajS CLOSEDagHALF CLOSEDagOPENajOPENaeSQUEEZEDaiWIDE OPENafNING MOVEMENT
awFACE DIRECTION POSITION NOSE FORWARD TILTINGapUP OR DOWNaa TILTINGbuILL MODIFIER-2ab3ab4ab5ab6
anNGERafLICK LARGE MULTIPLEaiSINGLEamSEQUENTIALajMALL MULTIPLEaiSINGLE
aqOORPLANE SHOULDER HIP MOVEbbOREHEAD CONTACTahNEUTRALahWRINKLEDaqULL STOPajGRASP BETWEEN
ahMULTIPLEaiSINGLEamHAIRacND-ANGLEaa INDEXaa MIDDLE LITTLEagRINGalRING LITTLEaa OUTapTHUMBaa IN
acOUTapLITTLE INDEXaa THUMB INDEX THUMBaa OUTbbUPajMIDDLE RING LITTLEaa INacOUT
awRING DOWN MIDDLE THUMB INDEX CROSSbdLITTLEarCIRCLEaa INDEXaa BENTaeHINGEafMIDDLE
aa CROSS LITTLEahEDahLITTLEagRINGaeTHUMBamRING LITTLEarLITTLE INDEXafUPajMIDDLE RING LITTLE
aa BENTaqUPajRING LITTLEarLAWaa FOUR FINGERS CONJOINEDawINDEX THUMB CURVE THUMB INSIDE
beMIDDLE RING LITTLE CONJOINEDaa SIDEbhNO THUMBaiTHUMB FORWARDahSIDEaoUPaa FIVE FINGERS SPREAD
aa OPENayINDEXaa RING LITTLEalTHUMBaa OPENaqMIDDLE RING LITTLEasNO THUMBaiOPENaa NO THUMB
aiTHUMB FORWARDahSIDEapTHUMB FORWARDahSIDEamRLICUEaa INDEX RING LITTLE ONauMIDDLE RING LITTLE ON
avOPENanFISTaa FOUR FINGERS CONJOINED BENTbbHEELaeINDEXaa BENTaa OVER MIDDLEaqCUPPEDagHINGED
aa LOWadMIDDLE UPaa THUMB SIDEbbMIDDLEaa BENTaa THUMB STRAIGHTatCONJOINEDaa CUPPED
aa THUMB FORWARDauHINGEDaa THUMB SIDEarINDEX BENTakMIDDLE BENTalTHUMB FORWARDahSIDEaa BENT
aeCONJOINEDbdROSS LITTLEahEDaa THUMB SIDEasHINGEDaa SPREAD THUMB SIDEayLITTLEagRAISED KNUCKLES
aoINGaa BENTaeCONJOINEDaoSTRAIGHT THUMB BENTatTHUMBaa ANGLEDaa OUTakBENTaeCIRCLED
agONJOINED HINGEDapUPPEDagHINGEDafOOKEDamUP SPREAD THUMB FORWARDbeRAISED KNUCKLEanING LITTLE
alTHUMB ANGLED IN MIDDLE UPamOUT MIDDLE UPauCIRCLEaaD MIDDLE UPaqUPPED MIDDLE UPaoRLICUE
afVE THUMB INSIDEagUNDERarFORWARD INDEX BENTaeSTRAIGHTawHOOKaaED MIDDLE HINGEDagUPaqSIDE
aa BOTH BENTajINDEX BENTaeHINGEalTHUMB BENTaeCONJOINEDajDIAGONALazUP MIDDLE HINGED
aa THUMB CONJOINEDajSIDEbhLITTLE BENTaeDOWNaa OTHERS CIRCLEDaoRIPPLE CURVEDagSTRAIGHTauINDEX
aa THUMBalRAISED KNUCKLEaoTHUMBaeOUCHES THUMBanUPajMIDDLE BENT OVER INDEXapDOWNaeLITTLE
agRAISED KNUCKLEanING LITTLEalTHUMB ANGLED INDEX UPaiOUT INDEX CROSSEDahUPatCIRCLED INDEX HINGED
agUPapUPPED INDEX UPapHOOKED INDEX UPapLITTLEamUPaa THUMB SIDEauRING DOWNaeINDEXafLITTLEagMIDDLE
aa CONJOINEDajRAISED KNUCKLESawRAISED KNUCKLEaoTHUMBafUPahTHUMBaa BETWEEN INDEX MIDDLE
aa STRAIGHTavMIDDLE RINGalRING LITTLEatFORWARDahHEELaeOVER FOUR RAISED KNUCKLESauTWO FINGERS
aqSIDE BENTaeCONJOINEDajDIAGONALanUNDER FOUR FINGERSamINDEX BENTakLITTLE UPajTHREE FINGERS
amWO FINGERSbbLATaa BETWEEN PALM FACINGSauFIVE FINGERS SPREADaa BENTaeFOUR BENTajHINGED
aa NO THUMBaiTHUMB SIDEarTHUMB FORWARDbgOUR FINGERSaa BENTaeCONJOINEDaa SPLITapHINGEDatHEEL
aa FIVE FINGERS SPREADaa BENTaeFOUR BENTbdTHUMB SIDEapSPLIT CENTREaa THUMB SIDEaa BENT
awINDEX THUMB SIDEaqLITTLEamTHUMB BENTaeFORWARDahSIDEapHINGEaa FIVE FINGERS SPREAD OPEN
axOUR FINGERS CONJOINEDawINDEXaa HINGEDagMIDDLE LITTLEagRINGaa CONJOINEDavRING LITTLEalTHUMB
aa LARGEafOPENaeSIDEadMALLarLITTLEaa INDEXaa THUMBalTHUMBamMIDDLEaa RING LITTLEasNO THUMBaiOPEN
aa NO THUMBaiTHUMB FORWARDahSIDEapRINGaa DOWN INDEX THUMB HOOK MIDDLEbhSMALL
afTHUMB BETWEEN MIDDLE RINGatSIDEaa TOUCHING INDEXbeOOKaa CURLICUEaiINDEX RING LITTLE INacOUT
adUNDERaxMIDDLE RING LITTLE CONJOINEDaa INacOUTazTHUMBamRING THUMBapOVALaa FIVE FINGERS SPREAD
atINDEXafLITTLE UPajNO THUMBaiRING LITTLEalTHUMB FORWARDahSIDEatEADaa MOVEMENT CIRCLE
ah-FLOORPLANE CURVEafSTRAIGHTatWALLPLANE CURVEafSTRAIGHTaiTILTaxRIMaiLIMB COMBINATIONalLENGTH-1
ab2ab3ab4ab5ab6ab7alP LOWER OVER UPPERaqUPPER OVER LOWERarS PRESSED TOGETHERauOCATION DEPTH
afHEAD NECKahIGHTagLIMBS DIGITSamTORSOafWIDTHag-FLOORPLANE SPACEaqWALLPLANE SPACE
ayMOUTH CLOSED CONTACTahFORWARDahNEUTRALanORNERSahFROWNaa OPENaeWRINKLEDaoKISSaa FORWARD
ahWRINKLEDanOPEN CIRCLEagFORWARDahOVALaa WRINKLEDaiYAWNajRECTANGLEaa WRINKLEDaiYAWNaoWRINKLED
anSMILEaa OPENaeWRINKLEDaoTENSEaa FORWARDahSUCKEDamWRINKLES DOUBLEagSINGLE
atVEMENT-DIAGONAL AWAY LARGEaaSTahMEDIUMagSMALLakBETWEEN AWAY LARGEaaSTahMEDIUMagSMALL
akTOWARDS LARGEaaSTahMEDIUMagSMALLavTOWARDS LARGEaaSTahMEDIUMagSMALL
awFLOORPLANE ARM CIRCLE HITTING WALL LARGE DOUBLEagSINGLEamMEDIUM DOUBLEagSINGLEanSMALL DOUBLE
agSINGLEbkBENDadOX LARGEafMEDIUMagSMALLajCHECKaeORNER LARGEafMEDIUMagSMALLalROSSaeURVE COMBINED
aiHITTING CEILING LARGEafSMALLanFLOOR LARGEafSMALLatLARGEaaSTahMEDIUMagSMALLalDOUBLE ALTERNATING
aa WRIST FLEXawSTRAIGHTaiWRIST FLEXarFINGER CIRCLES HITTING WALL DOUBLEagSINGLEbaONTACT
aoHUMP HITTING CEILING LARGE DOUBLEagTRIPLEamSMALL DOUBLEagTRIPLEauFLOOR LARGE DOUBLE
amSMALL DOUBLEamTRIPLE LARGE TRIPLEamSMALL TRIPLEbhSMALLakJAWadLOOP HITTING CEILING LARGE DOUBLE
agSINGLEamSMALL DOUBLEagSINGLEauFLOOR LARGE DOUBLEagSINGLEamSMALL DOUBLEagSINGLEbaSMALL
akPEAKS LARGEafMEDIUMagSMALLalSHAKING PARALLELapINGLE STRAIGHT LARGEaaSTahMEDIUMagSMALL
aoWRIST FLEXarTRIPLE ALTERNATING MOVEMENTaiWRIST FLEXawSTRAIGHT MOVEMENTarWRIST FLEX
arWAVE HITTING CEILING LARGEafSMALLanFLOOR LARGEafSMALLatLARGEafSMALLaeNAKE
ajRIST CIRCLE HITTING WALL DOUBLEagSINGLEbgZIGZAG LARGEafMEDIUMagSMALLaxHINGE DOWN SEQUENTIAL
apSIDE TO SIDE SCISSORSavUP DOWN ALTERNATING LARGEafSMALLarLARGEafSMALLakSEQUENTIAL
atWALLPLANE ARM CIRCLE MEDIUM DOUBLEagSINGLEanSMALL DOUBLEagSINGLEaxBEND LARGEafMEDIUMagSMALL
ajOX LARGEafMEDIUMagSMALLajCHECK LARGEafMEDIUMagSMALLakORNER LARGEafMEDIUMagROTATIONaiSMALL
alROSSaeURVE HALF-CIRCLE LARGEaaSTahMEDIUMagSMALLaqITTING CHESTafFRONT WALLasQUARTER LARGEaaST
ahMEDIUMagSMALLanTHEN STRAIGHTalREE-QUARTER CIRCLE MEDIUMagSMALLbbD CROSS MEDIUMagSMALL
asDOUBLE ALTERNATINGaa WRIST FLEXawSTRAIGHTaiWRIST FLEXarFINGER CIRCLES DOUBLEagSINGLEanONTACT
aoHUMP HITTING CHESTafFRONT WALLasLARGEafMEDIUMagSMALLakJAWadLOOP HITTING CHESTafFRONT WALL
asLARGEafMEDIUMagSMALLaa DOUBLEarPEAKS LARGEafMEDIUMagSMALLalSHAKINGagINGLE STRAIGHT LARGEaaST
ahMEDIUMagSMALLaoWRIST FLEXarTRIPLE ALTERNATINGaa WRIST FLEXawSTRAIGHT MOVEMENTarWRIST FLEX
arWAVE CURVE DOUBLE LARGEafMEDIUMagSMALLamTRIPLE LARGEafMEDIUMagSMALLasDIAGONAL PATH LARGE
afMEDIUMagSMALLatHITTING CHESTafFRONT WALLawRIST CIRCLE FRONT DOUBLEagSINGLEazZIGZAG LARGE
afMEDIUMagSMALLbfNECKadOSE CONTACTahNEUTRALahWIGGLESagRINKLESanPARENTHESISalROTATION MODIFIER-10
ab1ab2ab3ab4ab5ab6ac2ab3ab4ab5ab6ab7ab8ab9al-FLOORPLANE ALTERNATINGaa HITTING CEILINGahFLOOR
azDOUBLEaa HITTING CEILINGahFLOORauSINGLEaa HITTING CEILINGahFLOORbfWALLPLANE ALTERNATE
abING HITTING CHESTafFRONT WALLbeDOUBLEaa HITTING CHESTafFRONT WALLazSINGLEaa HITTING CHEST
afFRONT WALLbrUB BETWEENahMULTIPLEaiSINGLEakSEMICOLONaiHOULDER HIP POSITIONSajSPINE
ajTILTING FROM WAISTbaQUEEZE FLICK ALTERNATINGarLARGE MULTIPLEaiSINGLEamSEQUENTIAL
ajMALL MULTIPLEaiSINGLEatTRIKE BETWEENahMULTIPLEaiSINGLEamURFACE BETWEENahSYMBOLSapTEETH
aa BITE LIPSajMOVEMENTaiON LIPSaa MOVEMENTanTONGUEaa MOVEMENTawNSE CHEEKS HIGHaeLOWadMIDDLE
asONGUE CENTRE INSIDE MOUTHamSTICKING OUTatINSIDE MOUTH RELAXEDauLICKING LIPS
amMOVES AGAINST CHEEKatSTICKING OUT FARaqTIP BETWEEN LIPSamTOUCHING INSIDE MOUTH
beRSO-FLOORPLANE TWISTINGatWALLPLANE CURVED BENDalSTRAIGHT STRETCHbeUCH BETWEENahMULTIPLE
aiSINGLEalRAVEL-FLOORPLANE ROTATION-FLOORPLANE ALTERNATINGalDOUBLEagSINGLE
arWALLPLANE ALTERNATINGalDOUBLEagSINGLEazSHAKINGasWALLPLANE ARM SPIRAL DOUBLEagSINGLEagTRIPLE
arROTATION-FLOORPLANE ALTERNATINGalDOUBLEagSINGLEarWALLPLANE ALTERNATINGalDOUBLEagSINGLE
azSHAKINGayUPPER BODY TILTING FROM HIP JOINTSbiWALLPLANE SHOULDER HIP MOVEblLHOUETTE OF JAPAN
arMILAR ABOVE GREATER-THAN ABOVE EQUALS SIGNbeLESS-THAN ABOVE EQUALS SIGNbhMINUS SIMILAR
anOR GREATER-THANamLESS-THANasNE WAVEagGLE CHARACTER INTRODUCERauGRAPHIC CHARACTER INTRODUCER
bcHIGH-REVERSED-9 QUOTATION MARKbeLEFT-POINTING ANGLE QUOTATION MARKbhOW-9 QUOTATION MARK
auRIGHT-POINTING ANGLE QUOTATION MARKbjSHIFT THREEaeWOak-SHIFT-2ab3alHALA ARCHAIC DIGIT EIGHT
afFIVEadOURaeNINEaeONEadSEVENaeIXadTHREEaeWOajNUMBER EIGHTYagFIFTYaeORTYafNINETYagONE HUNDRED
ahTHOUSANDamSEVENTYagIXTYafTENacHIRTYafWENTYavLETTER AAYANNAagEEYANNAagYANNAagIYANNA
agLPAPRAANA BAYANNAahCAYANNAahDAYANNAagDAYANNAaiGAYANNAahJAYANNAahKAYANNAahPAYANNAahTAYANNA
agTAYANNAasMBA BAYANNAalUYANNAagYANNAagDANTAJA LAYANNAahNAYANNAahSAYANNAapEEYANNAagYANNA
agFAYANNAahHAYANNAahIIYANNAagLUUYANNAagYANNAahRUUYANNAagYANNAahYANNAagKANTAJA NAASIKYAYA
asMAHAAPRAANA BAYANNAahCAYANNAahDAYANNAagDAYANNAaiGAYANNAahJAYANNAahKAYANNAahPAYANNAahTAYANNA
agTAYANNAasYANNAagUURDHAJA LAYANNAahNAYANNAahSAYANNAarOOYANNAagYANNAagRAYANNAahSANYAKA DAYANNA
agDAYANNAaiGAYANNAahJAYANNAapTAALUJA NAASIKYAYAakSANYOOGA NAAKSIKYAYAasYANNAapUUYANNAagYANNA
agVAYANNAahYAYANNAanITH DIGIT EIGHTafFIVEadOURaeNINEaeONEadSEVENaeIXadTHREEaeWOadZERO
apPUNCTUATION KUNDDALIYAawSIGN AL-LAKUNAaiNUSVARAYAakCANDRABINDUalVISARGAYA
aoVOWEL SIGN AELA-PILLAakDIGA AEDA-PILLAakGAETTA-PILLAakYANUKITTAalIS-PILLAaiKOMBUVAahPAA-PILLA
aoGAETTA-PILLAakYANUKITTAalKETTI AEDA-PILLAakIS-PILLAaiPAA-PILLAaoOMBU DEKAafVAaa HAA AELA-PILLA
akDIGA AELA-PILLAapGAYANUKITTAboX PETALLED BLACK AND WHITE FLORETTEbgOINTED BLACK STAR
akPINWHEEL STARanSTAR WITH MIDDLE DOTbd-PER-EM SPACEanTEEN POINTED ASTERISKaxKATEBOARD
aiI AND SKI BOOTanERadULLaa AND CROSSBONESarNKaeLANTED EQUAL TO OR GREATER-THAN
aa WITH DOT INSIDEbcLESS-THANaa WITH DOT INSIDEblNORTH ARROW WITH HOOKED HEADajRIZONTAL TAIL
blVONIC ASTERISKapEDabEPING ACCOMMODATIONanFACEaeSYMBOLakY FACEaiUTH OR SPYalICE OF PIZZA
alGHTLY FROWNING FACEanSMILING FACEatOPEabING LARGE ANDadORanT MACHINEaiHaeMALL AIRPLANE
ahMPERSANDaiSTERISKaiBLUE DIAMONDamCOLONadMMAabERCIAL ATalNTAINS AS MEMBERajWITH OVERBAR
ahVERTICAL BAR AT END OF HORIZONTAL STROKEccDOLLAR SIGNalELEMENT OFaa WITH OVERBAR
ahVERTICAL BAR AT END OF HORIZONTAL STROKEcdM DASHagQUALS SIGNakXCLAMATION MARKaqFULL STOP
ajGREATER-THAN SIGNarHYPHEN-MINUSamIDEOGRAPHIC COMMAarLEFT CURLY BRACKETanPARENTHESIS
alTORTOISE SHELL BRACKETazSS-THAN SIGNaoNUMBER SIGNalORANGE DIAMONDaoPERCENT SIGNalLUS SIGN
ajQUESTION MARKanREVERSE SOLIDUSaoIGHT CURLY BRACKETanPARENTHESISalTORTOISE SHELL BRACKET
bbOMAN NUMERAL EIGHTaeLEVENagFIFTYadVEaa HUNDREDalOURaeNINEaeONEaa HUNDREDahTHOUSANDamSEVENaeIX
adTENacHREEaeWELVEaeOarSEMICOLONajTILDEaeWO DOTS OVER ONE DOT PUNCTUATIONbhVEE WITH UNDERBAR
asER THANaa OR EQUAL TOavSH PRODUCTalILEabING CAT FACE WITH HEART-SHAPED EYESarOPEN MOUTH
ayFACE WITH HALOadEART-SHAPED EYESaqORNSafOPEN MOUTHaa AND COLD SWEATakSMILING EYES
amTIGHTLY-CLOSED EYESbiSMILING EYESaa AND HAND COVERING MOUTHatTHREE HEARTSbcUNGLASSESakTEAR
atRKING FACEalOKING SYMBOLanNAILacKEadEEZING FACEalOW CAPPED MOUNTAINaqBOARDERahFLAKEafMAN
aa WITHOUT SNOWatOaaCCER BALLaiKSadFT HYPHENagICE CREAMajSHELL FLOPPY DISKasBALL
aeWARE-FUNCTION SYMBOLawGDIAN COMBINING CURVE ABOVEafBELOWalDOT ABOVEafBELOWajHOOK ABOVEafBELOW
akLONG HOOK BELOWapRESH BELOWakSTROKE BELOWamTWO DOTS ABOVEafBELOWayINDEPENDENT SHIN
aqLETTER ALEPHaeYINaeBETHaeFETHaeGIMELafHEaaTHaeKAPHaeLAMEDHafESHaeMEMadNUNadPEacRESH-AYIN
ajSADHEadMEKHafHINaeTAWadWAWadYODHaeZAYINamNUMBER ONEaa HUNDREDalTENacWENTY
anPUNCTUATION CIRCLE WITH DOTapHALF CIRCLE WITH DOTauTWO CIRCLES WITH DOTSarVERTICAL BARS
aa WITH DOTSbtHabLID QUILT SQUARE ORNAMENTaa IN BLACK SQUAREbmUSaa WITH OVERBARasM SIGN
agON WITH RIGHTWARDS ARROW ABOVEbeRA SOMPENG DIGIT EIGHTafFIVEadOURaeNINEaeONEadSEVENaeIXadTHREE
aeWOadZEROakLETTER AHacBAHadCAHadDAHadEEHacHacGAHadHAHadIHacJAHadKAHadLAHadMAEabHadNAHacGAHadYAH
aeOHacPAHadRAHadSAHadTAHadUHacVAHadYAHavSabUND RECORDING COPYRIGHTawTH EAST ARROW
aa AND SOUTH WEST ARROWauCROSSING NORTH EAST ARROWazTO CORNERajWITH HOOKapBLACK ARROW
alDOUBLE ARROWamPOINTING BUDadLEAFaeVINE LEAFasSANS-SERIF ARROWaqTRIANGLE-HEADED ARROWaa TO BAR
bcWHITE ARROWaqWEST ARROWaa AND NORTH WEST ARROWauWITH HOOKapBLACK ARROWalDOUBLE ARROW
amPOINTING BUDadLEAFaeVINE LEAFasSANS-SERIF ARROWaqTRIANGLE-HEADED ARROWaa TO BARbcWHITE ARROW
auYOMBO CLUSTER-INITIAL LETTER LAacRAacSAabHAbaFINAL CONSONANT SIGN -AacBabDabGabKabLabMabNaaG
acRabSaaHaxGEMINATION MARKapHEAD MARK WITH MOON AND SUNaa AND FLAMEafTRIPLE FLAMEbsLETTER -AacA
abBAabHAadCAabHAadDAabDAabHAadHAacZAadGAabHAadHAacJAabHAadKAabHAacSSAaeLAacMAacNAabGAacNAacYA
adPAabHAadRAacSAabHAacSAadTAabHAacSAabHAadTAabHAaeVAacYAacZAabHAakMARK DOUBLE SHADalPLUTAafSHAD
aeTSHEGakSIGN ANUSVARAaiJIHVAMULIYAalUPADHMANIYAalVISARGAalUBJOINERajTERMINAL MARK-1ab2
apVOWEL LENGTH MARKalSIGN AIabUacEabIabOaaEacUaaEacVOCALIC LabRbbPaaAaaCEacGHETTIagRKLEaaS
acING HEARTanEAK-NO-EVIL MONKEYapERaa WITH CANCELLATION STROKEatONE SOUND WAVE
aoTHREE SOUND WAVESazING HEAD IN SILHOUETTEayECH BALLOONakDBOATagSMILO SIGNalHERICAL ANGLE
aa OPENING LEFTaeUPayIDERaa WEBahRAL CALENDAR PADamNOTE PADaiSHELLakLASHING SWEAT SYMBOLauONGE
adOL OF THREADalNacRTS MEDALajUTING WHALEanQUARE A OVER MahARUadMabNPEAaePAATOafRUHUAafU
acBAARERUafRacEETAaeIRUadORUTOafQabUSSYERUaiC OVER KGaiALabPacCabDabMaa CUBEDafSQUAREDajO
aaRPORATIONakUPadDAaaASUaeBabESIadJabLabMaa CUBEDafSQUAREDajORUaeEEKAAaeRA NAME HEISEIagMEIZI
afREIWAafSYOUWAagTAISYOUaoGacSUKUUDOahVacFMabOOTacUR CORNERSamGALabNMAadRONaeBabHZacIGAacNII
adRUDAAagPAacURAMUaaTONaiYacHAaaITUaeEKUTAARUahRUTUafGabIRAGANA HOKAamONabONabRUaePaaAacUARADDO
agIITOaeRANaeZacIMAGE OFaa OR EQUAL TOaiNOT EQUAL TOaxNaaINGUaeTIadUacK OHMaeAaaIRIadRATTOaeORII
agBabCALadEESUaeGabHZacIROaaGURAMUagMEETORUahWATTOaiKabLabMaa CAPITALagUBEDafSQUAREDajOOPOadRUNA
afPAacTabUROONEaeUZEIROaiVabWabYURIIagLEFT OPEN BOX OPERATORavMabNabOGabZENGEagXacM CUBEDafOHM
acVER Saa SQUAREDaoSQUAREDaiAaaHHAadIKUROaeRUadNSYONafRUKUafBaa SMALLahEETORUafGAaaTONagGabHZ
acIKURONafLabRIaaBAARUaiLabMaa CUBEDafSQUAREDajOLacPAacSabU AabFabGabLabMabSabVabWadVaa MEGAagW
aa MEGAahNAaaNOadFabMabOTTOaeSabVabWacONSUadOMUadRIGINAL OFaa OR EQUAL TOaiNOT EQUAL TObaVacPA
aa AMPSafASENTOafTUaeCabEEZIadNIHIadSUadSOadFabHabIASUTORUahKOabURUafMabOINTOaeNDO
adSITION INDICATORarPMacRabSabVabWacRADaa OVER Saa SQUAREDarEMUacNTOGENahIGHT OPEN BOX OPERATOR
avRAacTTORUagOOTadUPIIadUBURUahSAIKURUafNTIIMUahENTIabOaeIRINGUagRabVacTARGETafHZacONadUON
adV OVER MaiWATTOaeBabITH BOTTOM HALF BLACKarCONTOURED OUTLINEarDIAGONAL CROSSHATCH FILL
ayHORIZONTAL FILLapLEFT HALF BLACKaoOWER LEFT DIAGONAL HALF BLACKayRIGHT DIAGONAL HALF BLACK
bfORTHOGONAL CROSSHATCH FILLbaRIGHT HALF BLACKaqTOP HALF BLACKaoUPPER LEFT DIAGONAL HALF BLACK
atTO LOWER RIGHT FILLayRIGHT DIAGONAL HALF BLACKatTO LOWER LEFT FILLbeVERTICAL FILLasYAADOacRU
aeUANafD ASTERISKaiCJK UNIFIED IDEOGRAPH-4E00ab9ac2Dac8CacA4ae518Dad21Dac4Dac72ad3CCacF3ad408
ac39ad5B6ad8F0ad91Aac29adB57adDE6adF8Cae624Bac53ac95ad307ac55ad599acB0ad620ad708ab9adE80adF14
ae7121ad51Fac33ad981adA7AadD42ae89E3adCA9adD70ae904Aad14DazLabOOLaeDOT OPERATORamEIGHT K
ahFALLING DIAGONAL SLASHavIVE POINT ONEanOUR DOT PUNCTUATIONapKafREEaeHCabDRacI-RESafVacID
acKATAKANA DEacKOKOaeSAakEYadLATIN CAPITAL LETTER AabBabCabDabEabFabGabHabIabJabKabLabMabNabOabP
abQabRabSabTabUabVabWabXabYabZaqSMALL LETTER DatOGICAL ANDadORaiSSLESSaiMINUSaeVacNEWacGacOK
abNE HUNDRED TWENTY PauPLUSadPVadRISING DIAGONAL SLASHavSALTIREagDabECOND SCREENalVEN POINT ONE
aoHVacIXTY PagMALL CIRCLEalOSacQUAREafSacTHREE DagIMESaeWENTY-TWO POINT TWOasO KafUHD
acP WITH EXCLAMATION MARKayVODacSacWCagT BLACK RIGHTWARDS ARROWazIDaeS2ab3abAacTaaADIUM
aeFF OF AESCULAPIUSalHERMESamMPED ENVELOPEanNDING PERSONamR AND CRESCENTamEQUALSagOF DAVID
ahPERATORaiWITH LEFT HALF BLACKapRIGHT HALF BLACKawT OF GUARDED AREAamHEADINGahPROTECTED AREA
aoSELECTED AREAamTRINGagTEXTakTIONadUE OF LIBERTYapEAM LOCOMOTIVEalING BOWLakNOGRAPHIC FULL STOP
atTHOSCOPEajICK FIGUREaa LEANING LEFTaeRIGHTanWITH ARMS RAISEDalDRESSavOCK CHARTaiPWATCH
ahRAIGHT RULERagNESSaiWBERRYahESS OUTLINED WHITE STARaxICTLY EQUIVALENT TOasNG TERMINATORapS
abUDIO MICROPHONEaoFFED FLATBREADaoPAadXacUBaaSCRIPT EIGHTaeQUALS SIGNalFIVEadOUR
aeLEFT PARENTHESISaqMINUSafNINEaeONEadPLUS SIGNajRIGHT PARENTHESISarSEVENaeIXadTHREEaeWOadZERO
akET ABOVE RIGHTWARDS ARROWaqSUBSETaePERSETaoOFaa ABOVE ALMOST EQUAL TOapEQUALS SIGN
alNOT EQUAL TOamTILDE OPERATORauOR EQUAL TOaa WITH DOT ABOVEbaWITH NOT EQUAL TOauWITH DOT
adMULTIPLICATION SIGN BELOWazPLUS SIGN BELOWaxTITUTEaiCCEEDSaa ABOVE ALMOST EQUAL TO
apEQUALS SIGNalNOT ALMOST EQUAL TOapEQUAL TOamSINGLE-LINE EQUALS SIGNalNOT EQUAL TO
beBUT NOT EQUIVALENT TOavOR EQUAL TOafIVALENT TOaqUNDER RELATIONavMMATION BOTTOMagTOP
adWITH INTEGRALavNaa BEHIND CLOUDamWITH FACEakDANESE AVAGRAHAaiCONSONANT SIGN PAMINGKALahNYAKRA
aeIKUafSANGAN MAacWAbaDIGIT EIGHTafFIVEadOURaeNINEaeONEadSEVENaeIXadTHREEaeWOadZEROakLETTER AaaE
acBAabHAadCAacDAacEaaUacFAabINAL KabMahGAacHAacIabJAacKAabHAadLAabEUadMAacNAabGAacYAadOabPAacQA
acRAabEUadSAabYAadTAacUabVAacWAacXAacYAacZAajPUNCTUATION BINDU BA SATANGAakCAKRAafDA SATANGA
akKA SATANGAakLEU SATANGAalPANGLONGahURNAMAahSURYAaxSIGN PAMAAEHafNGLAYARafWISADagYECEKaiVIRAMA
alVOWEL SIGN PAMEPETafNAELAENGahEULEUNGahGHULUafOLONGafYUKUazFLOWERagRISEaa OVER MOUNTAINS
atSET OVER BUILDINGSatPERHEROaeSCRIPT EIGHTaeQUALS SIGNalFIVEadOURaeLATIN SMALL LETTER IabN
atEFT PARENTHESISaqMINUSafNINEaeONEadPLUS SIGNajRIGHT PARENTHESISarSEVENaeIXadTHREEaeWOadZERO
akET ABOVE LEFTWARDS ARROWapSUBSETaePERSETaoBESIDE AND JOINED BY DASH WITH SUBSETbeSUBSETanOF
aa ABOVE ALMOST EQUAL TOapEQUALS SIGNalNOT EQUAL TOamTILDE OPERATORauOR EQUAL TO
aa WITH DOT ABOVEbaWITH NOT EQUAL TOauPRECEDING SOLIDUSarWITH DOTadMULTIPLICATION SIGN BELOW
azPLUS SIGN BELOWayVILLAINakRFACE INTEGRALamERaeSHIacPENSION RAILWAYarWANabSH AMPERSAND ORNAMENT
awIMMERafUNG DASHajYLOTI NAGRI LETTER AabBHOacOacCHOacOacDDHOacOacHOacOacEabGHOacOacHOacIabJHO
acOacKHOacOacLOacMOacNOacOabPHOacOacROabROadSOacTHOacOabTHOacOadUaiPOETRY MARK-1ab2ab3ab4
anSIGN ALTERNATE HASANTAaqNUSVARAaiDVISVARAaiHASANTAamVOWEL SIGN AabEabIabOOacU
axMBOL FOR ACKNOWLEDGEalBACKSPACEaiELLaeCANCELaeRRIAGE RETURNapDATA LINK ESCAPEapELETE
aa FORM TWOanVICE CONTROL FOURaeONEadTHREEaeWOasEND OF MEDIUMagTEXTadRANSMISSIONaa BLOCKaxQUIRY
agSCAPEagFILE SEPARATORanORM FEEDajGROUP SEPARATORapHORIZONTAL TABULATIONavLINE FEED
ajMARKS CHAPTERanNEGATIVE ACKNOWLEDGEasWLINEagULLaeRECORD SEPARATORaqSAMARITAN SOURCEapHIFT IN
acOUTaiPACEaeTART OF HEADINGahTEXTamUBSTITUTEaa FORM TWOasYNCHRONOUS IDLEaqTYPE A ELECTRONICS
asUNIT SEPARATORaoVERTICAL TABULATIONbbMETRYagNaaAGOGUEagCHRONOUS IDLEaoRIAC ABBREVIATION MARK
arBARREKHahCOLON SKEWED LEFTaeRIGHTaqNTRACTIONalDOTTED ZLAMA ANGULARahHORIZONTAL
axEND OF PARAGRAPHapSASA ABOVEafBELOWalFEMININE DOTamHARKLEAN ASTERISCUSakMETOBELUSajOBELUS
aoBASA ABOVEafBELOWag-ESASA DOTTEDarORIZONTAL COLONaqLETTER ALAPHafBETHaeDALATH
afOTLESS DALATH RISHatEabFINAL SEMKATHanGAMALaa GARSHUNIaoHEaaTHaeKAPHaeLAMADHagMALAYALAM BHA
adJAacLLAabLAaeNGAacNAabNAadYAadRAacSSAadTTAamIMadNUNadPEaaRSIAN BHETHafDHALATHahGHAMALaoQAPH
aeREVERSED PEakISHaeSADHEaeEMKATHagHINadOGDIAN FEacKHAPHafZHAINamUPERSCRIPT ALAPHarTAWacETH
aa GARSHUNIanWAWadYUDHaa HEahZAINalMUSICafOBLIQUE LINE ABOVEafBELOWasPTHAHA ABOVEafBELOWafDOTTED
anQUSHSHAYAajRBASA ABOVEafBELOWakUKKAKHAahWAHAafSUBLINEAR COLONaa SKEWED LEFTaeRIGHTasFULL STOP
arPRALINEAR COLONaa SKEWED LEFTarFULL STOPavTHREE DOTS ABOVEafBELOWapWO VERTICAL DOTS ABOVE
afBELOWaxZQAPHA ABOVEafBELOWafDOTTEDaqNGEahT-REXadSHIRTagABaaLE TENNIS PADDLE AND BALLbaCO
acG AMPERSANDaiPOSTROPHEajSTERISKaiCIRCUMFLEX ACCENTaqOLONadMMAabERCIAL ATanDIGIT EIGHTafFIVE
adOURaeNINEaeONEadSEVENaeIXadTHREEaeWOadZEROajOLLAR SIGNalEQUALS SIGNakXCLAMATION MARK
aqFULL STOPajGRAVE ACCENTakEATER-THAN SIGNarHYPHEN-MINUSamLATIN CAPITAL LETTER AabBabCabDabEabF
abGabHabIabJabKabLabMabNabOabPabQabRabSabTabUabVabWabXabYabZaqSMALL LETTER AabBabCabDabEabFabG
abHabIabJabKabLabMabNabOabPabQabRabSabTabUabVabWabXabYabZatEFT CURLY BRACKETanPARENTHESIS
alSQUARE BRACKETarSS-THAN SIGNanOW LINEaiNUMBER SIGNalPERCENT SIGNalLUS SIGNajQUESTION MARK
alOTATION MARKaoREVERSE SOLIDUSaoIGHT CURLY BRACKETanPARENTHESISalSQUARE BRACKETauSEMICOLON
aiOLIDUSagPACEafTILDEafVERTICAL LINEaoALOG LETTER AaaRCHAIC RAakBAacDAacGAacHAacIabKAacLAacMA
acNAabGAadPAacRAacSAacTAacUabWAacYAajSIGN PAMUDPODaiVIRAMAalVOWEL SIGN IabUarBANWA LETTER AabBA
acDAacGAacIabKAacLAacMAacNAabGAadPAacSAacTAacUabWAacYAajVOWEL SIGN IabUatI LE LETTER AaaIabUEadE
aaEabHacFAacHAacIabKAabHAadLAacMAacNAabGAadOaaOacPAabHAadQAacSAacTAabHAacONE-2ab3ab4ab5ab6afSA
abHAaeUaaEacVAacXAacYAamTHAM COMBINING CRYPTOGRAMMIC DOTazNSONANT SIGN BAacFINAL NGA
ajHIGH RATHA OR LOW PAauLA TANG LAIakOW PAagMAabEDIAL LAacRAajSAarHORA DIGIT EIGHTafFIVEadOUR
aeNINEaeONEadSEVENaeIXadTHREEaeWOadZEROapLETTER AabBAacDAacEEacGREAT SAaiHIGH CAabHAadFAacHAacKA
abHAacXAadPAabHAadRATHAafSAabHAacSAadTAabHAadYAahIaaIacLAaaEacLAacOW CAabHAadFAacHAacKAabHAacXA
adPAabHAadRATHAafSAacTAabHAadYAafUEadMAacNAabGAacYAadOOacRAaaNAacTAadUEadUaaUacWAajSIGN CAANG
afDOKMAIagHANGadOYadKAANaaKUUagEOWadHUEN TONE-3ab4ab5ah-LUE KARANapMAI KANGaa LAIaiSAMadYAMOK
ajRA HAAMagEVERSED ROTATED RANAavSAKOTadTKAANaaKUUaiWANafTONE-1ab2agWIANGaaWAAK
aoTHAM DIGIT EIGHTafFIVEadOURaeNINEaeONEadSEVENaeIXadTHREEaeWOadZEROapVOWEL SIGN AaaAabEabIacE
abIaaIacMAI SATahOaaA ABOVEafBELOWahOabYacTALL AAagHAM AIahUaaEabUaaEatVIET LETTER HIGH BOacCHO
acOacDOacFOacGOacHOacKHHOacOacOacLOacMOacNGOacOabYOadOabPHOacOacROacSOacTHOacOacVOacYOahLOW BO
acCHOacOacDOacFOacGOacHOacKHHOacOacOacLOacMOacNGOacOabYOadOabPHOacOacROacSOacTHOacOacVOacYO
anMAI KANGadHITaiSYMBOL HO HOIagKOI KOIafNadNUENGafSAMakTONE MAI EKacNUENGafSONGaeTHOamVOWEL AA
abMabNabUEacYacEabIaaAacOabUaaAabEaaAaqKEOUT BOXaiRI ABBREVIATION SIGNarDIGIT EIGHTafFIVEadOUR
aeNINEaeONEadSEVENaeIXadTHREEaeWOadZEROakLETTER AaaAabIabRCHAIC KHAakUacBAabHAadCAabHAadDAabDA
abHAadHAadEabGAabHAadHAacIaaIacJAabHAadKAabHAadLAacMAacNAabGAacNAacYAadOabPAabHAadRAabRAadSAabHA
adTAabHAacTAabHAaeUaaUacVAacYAajSIGN ANUSVARAaiNUKTAafVIRAMAaeSARGAamVOWEL SIGN AAabIabUacEabI
aaIacOabUaaUarLLY MARK FIVEaeONEamMALEadIL AND ODD SIGNalS ABOVE SIGNamU LENGTH MARK
aoCREDIT SIGNakURRENT SIGNamDAY SIGNahEBIT SIGNajIGIT EIGHTafFIVEadOURaeNINEaeONEadSEVENaeIX
adTHREEaeWOadZEROajRY CULTIVATION SIGNauFRACTION DOWNSCALING FACTOR KIIZHayONE EIGHTHabIETH
ajFIFTHaeORTIETHaiHALF-1ab2agONE-HUNDRED-AND-SIXTIETHayQUARTERahSIXTEENTH-1ab2ahY-FOURTHamTENTH
aeHIRTY-SECONDalREE-HUNDRED-AND-TWENTIETHbaWENTIETHanTHREE EIGHTIETHSakQUARTERSaiSIXTEENTHS
agY-FOURTHSanTWENTIETHSazIN POSSESSION SIGNasLAND SIGNaiETTER AaaAabIabUacCAacEaaEacHAacIaaIacJA
acKAacLAabLAabLAaeMAacNAabGAacNAabNAadYAadOaaOacPAacRAabRAadSAabHAacSAadTAabTAadUaaUacVAacYA
ajMONTH SIGNakNUMBER ONE HUNDREDahTHOUSANDamSIGNaeTENakOMacPUNCTUATION END OF TEXTaxRUPEE SIGN
akSALT PAN SIGNamIGN AAZHAAKKUaiNUSVARAaiCEVITUagKAACUaeURUNIaeZHIafMUKKURUNIahTHALIYA
ahUVUZHAKKUalNELadPAARAMaeNAMadTHAKKUahONadUZHAKKUahVAKAIYARAAaiRAAKANahELIadIRAMAaeSARGA
alPENT SIGNajTARTING FROM SIGNasTOTAL SIGNajRADITIONAL CREDIT SIGNalNUMBER SIGNaxVOWEL SIGN AA
abIabUacEaaEacIaaIacOaaOacUaaUanWET CULTIVATION SIGNauYEAR SIGNanNABATA TREEakGERINE
afSA DIGIT EIGHTafFIVEadOURaeNINEaeONEadSEVENaeIXadTHREEaeWOadZEROakLETTER ACabQabWCabQabXabZacX
abZacBAacCAabHAadDAabHAadECabQabXabZacFAabINAL NGaiGAabHAadHAabTAabTAaeICabQabXabZacKAabHAadLA
abONG UEXaiMAabCabQabXabZacNAabGAacHAacYAadOCabQabXabZacPAabHAadRAacSAabHAabORT AWXadUEZajTAabHA
acSAadUCabECabQabXabZacICabQabUCabQabXabZacXabZacQabXabZacVCabQabXabZacWAacXAacYAacZA
amUT COMPONENT-001ab2ab3ab4ab5ab6ab7ab8ab9ac10ab1ab2ab3ab4ab5ab6ab7ab8ab9ac20ab1ab2ab3ab4ab5ab6
ab7ab8ab9ac30ab1ab2ab3ab4ab5ab6ab7ab8ab9ac40ab1ab2ab3ab4ab5ab6ab7ab8ab9ac50ab1ab2ab3ab4ab5ab6ab7
ab8ab9ac60ab1ab2ab3ab4ab5ab6ab7ab8ab9ac70ab1ab2ab3ab4ab5ab6ab7ab8ab9ac80ab1ab2ab3ab4ab5ab6ab7ab8
ab9ac90ab1ab2ab3ab4ab5ab6ab7ab8ab9ad100ab1ab2ab3ab4ab5ab6ab7ab8ab9ac10ab1ab2ab3ab4ab5ab6ab7ab8
ab9ac20ab1ab2ab3ab4ab5ab6ab7ab8ab9ac30ab1ab2ab3ab4ab5ab6ab7ab8ab9ac40ab1ab2ab3ab4ab5ab6ab7ab8ab9
ac50ab1ab2ab3ab4ab5ab6ab7ab8ab9ac60ab1ab2ab3ab4ab5ab6ab7ab8ab9ac70ab1ab2ab3ab4ab5ab6ab7ab8ab9
ac80ab1ab2ab3ab4ab5ab6ab7ab8ab9ac90ab1ab2ab3ab4ab5ab6ab7ab8ab9ad200ab1ab2ab3ab4ab5ab6ab7ab8ab9
ac10ab1ab2ab3ab4ab5ab6ab7ab8ab9ac20ab1ab2ab3ab4ab5ab6ab7ab8ab9ac30ab1ab2ab3ab4ab5ab6ab7ab8ab9
ac40ab1ab2ab3ab4ab5ab6ab7ab8ab9ac50ab1ab2ab3ab4ab5ab6ab7ab8ab9ac60ab1ab2ab3ab4ab5ab6ab7ab8ab9
ac70ab1ab2ab3ab4ab5ab6ab7ab8ab9ac80ab1ab2ab3ab4ab5ab6ab7ab8ab9ac90ab1ab2ab3ab4ab5ab6ab7ab8ab9
ad300ab1ab2ab3ab4ab5ab6ab7ab8ab9ac10ab1ab2ab3ab4ab5ab6ab7ab8ab9ac20ab1ab2ab3ab4ab5ab6ab7ab8ab9
ac30ab1ab2ab3ab4ab5ab6ab7ab8ab9ac40ab1ab2ab3ab4ab5ab6ab7ab8ab9ac50ab1ab2ab3ab4ab5ab6ab7ab8ab9
ac60ab1ab2ab3ab4ab5ab6ab7ab8ab9ac70ab1ab2ab3ab4ab5ab6ab7ab8ab9ac80ab1ab2ab3ab4ab5ab6ab7ab8ab9
ac90ab1ab2ab3ab4ab5ab6ab7ab8ab9ad400ab1ab2ab3ab4ab5ab6ab7ab8ab9ac10ab1ab2ab3ab4ab5ab6ab7ab8ab9
ac20ab1ab2ab3ab4ab5ab6ab7ab8ab9ac30ab1ab2ab3ab4ab5ab6ab7ab8ab9ac40ab1ab2ab3ab4ab5ab6ab7ab8ab9
ac50ab1ab2ab3ab4ab5ab6ab7ab8ab9ac60ab1ab2ab3ab4ab5ab6ab7ab8ab9ac70ab1ab2ab3ab4ab5ab6ab7ab8ab9
ac80ab1ab2ab3ab4ab5ab6ab7ab8ab9ac90ab1ab2ab3ab4ab5ab6ab7ab8ab9ad500ab1ab2ab3ab4ab5ab6ab7ab8ab9
ac10ab1ab2ab3ab4ab5ab6ab7ab8ab9ac20ab1ab2ab3ab4ab5ab6ab7ab8ab9ac30ab1ab2ab3ab4ab5ab6ab7ab8ab9
ac40ab1ab2ab3ab4ab5ab6ab7ab8ab9ac50ab1ab2ab3ab4ab5ab6ab7ab8ab9ac60ab1ab2ab3ab4ab5ab6ab7ab8ab9
ac70ab1ab2ab3ab4ab5ab6ab7ab8ab9ac80ab1ab2ab3ab4ab5ab6ab7ab8ab9ac90ab1ab2ab3ab4ab5ab6ab7ab8ab9
ad600ab1ab2ab3ab4ab5ab6ab7ab8ab9ac10ab1ab2ab3ab4ab5ab6ab7ab8ab9ac20ab1ab2ab3ab4ab5ab6ab7ab8ab9
ac30ab1ab2ab3ab4ab5ab6ab7ab8ab9ac40ab1ab2ab3ab4ab5ab6ab7ab8ab9ac50ab1ab2ab3ab4ab5ab6ab7ab8ab9
ac60ab1ab2ab3ab4ab5ab6ab7ab8ab9ac70ab1ab2ab3ab4ab5ab6ab7ab8ab9ac80ab1ab2ab3ab4ab5ab6ab7ab8ab9
ac90ab1ab2ab3ab4ab5ab6ab7ab8ab9ad700ab1ab2ab3ab4ab5ab6ab7ab8ab9ac10ab1ab2ab3ab4ab5ab6ab7ab8ab9
ac20ab1ab2ab3ab4ab5ab6ab7ab8ab9ac30ab1ab2ab3ab4ab5ab6ab7ab8ab9ac40ab1ab2ab3ab4ab5ab6ab7ab8ab9
ac50ab1ab2ab3ab4ab5ab6ab7ab8ab9ac60ab1ab2ab3ab4ab5ab6ab7ab8anITERATION MARKatPE CARTRIDGEajDRIVE
aiURUSaeXIadEACUP WITHOUT HANDLEasPOTadR-OFF CALENDARanDROP-BARBED RIGHTWARDS ARROW
axSPOKED ASTERISKawDDY BEARaiLEPHONE LOCATION SIGNanON TOP OF MODEMapRECEIVERaa WITH PAGEapORDER
aiSIGNakSCOPEafVISIONahUGU AI LENGTH MARKaoDIGIT EIGHTafFIVEadOURaeNINEaeONEadSEVENaeIXadTHREE
aeWOadZEROakFRACTION DIGIT ONE FOR EVEN POWERS OF FOURatODD POWERS OF FOUR
baTHREE FOR EVEN POWERS OF FOURatODD POWERS OF FOURbbWO FOR EVEN POWERS OF FOUR
atODD POWERS OF FOURbaZERO FOR ODD POWERS OF FOURbqLENGTH MARKajTTER AaaAabIabUacBAabHAadCAabHA
adDAabDAabHAadHAacZAadEaaEacGAabHAadHAacIaaIacJAabHAadKAabHAadLAabLAabLAaeMAacNAaaKAARA POLLU
amGAacNAacYAadOaaOacPAabHAadRAabRAabRAaeSAabHAacSAadTAabHAacSAacTAabHAaeUaaUacVAabOCALIC LaaLacR
aaRakYAajSIGN ANUSVARAahVAGRAHAaiCANDRABINDUakOMBINING ANUSVARA ABOVEaoCANDRABINDU ABOVEbbNUKTA
afSIDDHAMahTUUMUafVIRAMAaeSARGAamVOWEL SIGN AAabIabUacEaaEacIaaIacOaaOacUaaUacVOCALIC LaaLacRaaR
baNGE SIGNahNIS RACQUET AND BALLauTacST TUBEahTRAGRAM FOR ACCUMULATIONalDVANCEagGGRAVATION
akSCENTagBARRIERagOLD RESOLUTIONaoRANCHING OUTanCENTREafHANGEafLOSED MOUTHahNESSafUREagOMPLETION
afIANCEaiNSTANCYagTACTadENTIONagRARIETYalDARKENINGaiECISIVENESSakFECTIVENESS OR DISTORTION
azPARTUREaiIFFICULTIESakMINISHMENTajMINGafVERGENCEajOUBTaeUTIESagEASEadMBELLISHMENTamNCOUNTERS
aiDEAVOURahLARGEMENTakTERNITYahXHAUSTIONakFAILUREagLIGHTafOLLOWINGahSTERINGaiULL CIRCLEahNESS
aiGATHERINGaa INalOING TO MEETamREATNESSaiUARDEDNESSalHARDNESSahOLDING BACKamINCREASEagNERafJOY
adKEEPING SMALLamINSHIPahLABOURINGahW OR MODELalEGIONagMASSINGagEASUREagIREDafON THE VERGE
alPPOSITIONakPACKINGafTTERNagENETRATIONakURITYagREACHadLEASEafSIDENCEafSTANCEahPONSEahITUAL
agSEVERANCEaiINKINGagTOPPAGEafVEadRENGTHaiUNITYafVASTNESS OR WASTINGatWAITINGafTCHafYOUTHFULNESS
azHAANA AABAAFILIaiBAFILIahEBEFILIagEBEEFILIaiYBEYFILIajIBIFILIahLETTER AINUadLIFUafBAA
adCHAVIYANIajDAADHUaeVIYANIahHAALUagFAAFUafGAAFUaeHAINUafNAVIYANIajHAAacHAAaeJAVIYANIaiKAAFU
aeHAAaeLAAMUaeHAVIYANIajMEEMUafNAAacOONUafPAVIYANIaiQAAFUafRAAadSAADHUafEENUaeHAVIYANIahEENU
agTAVIYANIahHAAaaLUafOabTAAaeVAAVUafWAAVUafYAAadZAAabVIYANIahOajOABOAFILIaiBOFILIagOBOOFILI
ajSUKUNafUBUFILIalI CHARACTER ANGKHANKHUakBO BAIMAIajCHO CHANaaGadINGadOEaiDO CHADAafDEKagFO FA
aaNaeNGMANahHO HIPadNOKHUKajKHO KHAIacONacUATadWAIafRAKHANGaiMUTafO KAIagLAKKHANGYAOakO CHULA
afLINGagUacMAI CHATTAWAaiEKacHAN-AKATaiTHOacRIaeTAIKHUagYAMOKahO MAafNGO NGUagIKHAHITahO NENacU
afO ANGafPAIYANNOIaiHINTHUafO PHANacUNGafSAMPHAOakO PLAagRO RUAafUacSARA AaaAabEabI MAIMALAI
aeUANajMacEabIaaIacOabUaaEaaEacUagO RUSIaeSALAadOabUAagTHANTHAKHATajO NANGMONTHOakPHUTHAO
ahTHAHANadNacONGadUNGaiO PATAKafTAOagWO WAENahYAMAKKANahO YAKacINGaqURRENCY SYMBOL BAHT
auDIGIT EIGHTafFIVEadOURaeNINEaeONEadSEVENaeIXadTHREEaeWOadZEROanERE DOES NOT EXISTaoEXISTS
ahFOREafMODYNAMICahMETERajIN GREEK CROSSalSALTIREagPACEagKING FACEakRD PLACE MEDALapONG SANDAL
ajUGHT BALLOONanREE BUTTON MOUSEamCONSECUTIVE EQUALS SIGNSayDIMENSIONAL ANGLEaqOT PUNCTUATION
apLEFTWARDS ARROWSapINES CONVERGING LEFTaeRIGHTawNETWORKED COMPUTERSatPOINTED BLACK STAR
asRAYS ABOVEafBELOWafLEFTaeRIGHTajIGHTWARDS ARROWSarSPEECH BUBBLES
ap-D BOTTOM-LIGHTED RIGHTWARDS ARROWHEADbjLEFT-LIGHTED DOWNWARDS EQUILATERAL ARROWHEAD
bsRIGHT-LIGHTED UPWARDS EQUILATERAL ARROWHEADbrTOP-LIGHTED LEFTWARDS EQUILATERAL ARROWHEAD
bfRIGHTWARDS ARROWHEADajEQUILATERAL ARROWHEADbuEM DASHahPER-EM SPACEaqUMBS DOWN SIGNajUP SIGN
alNDER CLOUD AND RAINapSTORMalIBETAN ASTROLOGICAL SIGN -KHYUD PAajSDONG TSHUGS
alGRA GCAN -CHAR RTAGSbnCANTILLATION SIGN CANG TE-UajHEAVY BEATakLIGHT BEATakSBUB -CHAL
bcDIGIT EIGHTafFIVEadOURaeHALF EIGHTafFIVEadOURaeNINEaeONEadSEVENaeIXadTHREEaeWOadZEROajNINE
aeONEadSEVENaeIXadTHREEaeWOadZEROakKU RU KHAaa BZHI MIG CANawLETTER -AacAabBAabHAadCAabHAadDA
abDAabHAadHAacZAabHAaeFIXED-FORM RAanGAabHAadHAacJAacKAabHAacKAacSSAaeLAacMAacNAabGAacNAacYAadPA
abHAadRAabRAadSAabHAacSAadTAabHAacSAabHAadTAabHAaeWAacYAacZAabHAajOGOTYPE SIGN CHAD RTAGS
akLHAG RTAGSayMARK ANG KHANG GYASacONaoBKA- SHOG GI MGO RGYANamYIG MGOaqSDUS RTAGS
ajKA- SHOG GI MGO RGYANauUR YIG MGOanCARET -DZUD RTAGS BZHI MIG CANamME LONG CAN
axYIG MGO PHUR SHAD MAazHE MGOagLOSING BRDA RNYING YIG MGO SGAB MAbbYIG MGO SGAB MA
axDELIMITER TSHEG BSTARavGTER TSHEGafYIG MGO -UM GTER TSHEG MAanRNAM BCAD MAaqTRUNCATED A
axUG RTAGS GYASacONaoHALANTAahINITIAL BRDA RNYING YIG MGO MDUN MAbbYIG MGO MDUN MA
avTERSYLLABIC TSHEGatLEADING MCHAN RTAGSatMNYAM YIG GI MGO RGYANawNGAS BZUNG NYI ZLAahSGOR RTAGS
auYIS SHADaeTSHEGaa SHADapPALUTAagRGYA GRAM SHADanIN CHEN SPUNGS SHADauSBRUL SHADajHAD
aeTRAILING MCHAN RTAGSatSA -PHRUahHEG SHADakYIG MGO TSHEG SHAD MAbaSIGN GRU CAN RGYINGS
alMED RGYINGSapINVERTED MCHU CANarLCE TSA CANajI RTAGSajMAR TSHESaiCHU CANaiNYI ZLA NAA DA
aoRDEL DKAR GCIGadNYISaeSUMaeRDEL NAGanNAG GCIGadNYISaeSUMaeRDEL DKARarJES SU NGA ROanNAM BCAD
ajSNA LDANaiYANG RTAGSaiR TSHESanUBJOINED LETTER -AacAabBAabHAadCAabHAadDAabDAabHAadHAacZAabHA
aeFIXED-FORM RAacWAacYAanGAabHAadHAacJAacKAabHAacSSAaeLAacMAacNAabGAacNAacYAadPAabHAadRAacSAabHA
acSAadTAabHAacSAabHAadTAabHAaeWAacYAacZAabHAakSIGN INVERTED MCHU CANarLCE TSA CANalMCHU CAN
awYLLABLE OMajMBOL DRIL BUahNOR BUaa BZHI -KHYILalGSUM -KHYILalNYIS -KHYILasPADMA GDANajHUR PA
ahRDO RJEaa RGYA GRAMayVOWEL SIGN AAacEaaEacIaaIacOaaOacREVERSED IaaIalUaaUacVOCALIC LaaLacRaaR
bbCKETaeE OVER INFINITYapFINAGH CONSONANT JOINERaqLETTER AHAGGAR YAZHalYER YAGH
ajBERBER ACADEMY YAHabJasTAWELLEMET YAZanUAREG YAGHabNacHabKaaHacNGacQabZHalYAaaAabBaaHacCHacD
aaDaaHacHacFabGaaHaaHadHaaHacJabKaaHaaHadLabMabNabPabQabRaaRacSaaHabSacTaaHabTacVabWabYabZaaHabZ
adEaaYacIabOabUajMODIFIER LETTER LABIALIZATION MARKbiSEPARATOR MARKavGERaa FACE
ahHT TRIFOLIATE SNOWFLAKEayLDEaa OPERATORaa ABOVE LEFTWARDS ARROWapRIGHTWARDS ARROW
awWITH DOT ABOVEajRISING DOTSazWITH DOT ABOVEafBELOWajRING ABOVEatMER CLOCK
ahS WITH LEFT HALF BLACKapRIGHT HALF BLACKazNYaa TWO DOTS OVER ONE DOT PUNCTUATIONbkRED FACE
ahHUTA ABBREVIATION SIGNaqNJIaeDIGIT EIGHTafFIVEadOURaeNINEaeONEadSEVENaeIXadTHREEaeWOadZERO
akGVANGafLETTER AaaAabIabUacBAabHAadCAabHAadDAabDAabHAadHAadEabGAabHAadHAacIaaIacJAabHAadKAabHA
adLAacMAacNAabGAacNAacYAadOabPAabHAadRAacSAabHAacSAadTAabHAacTAabHAaeUaaUacVAabOCALIC LaaLacRaaR
akYAajOMacSIGN ANUSVARAahVAGRAHAaiCANDRABINDUalNUKTAafVIRAMAaeSARGAamVOWEL SIGN AAabIabUacEabI
aaIacOabSHORT EabOahUaaUacVOCALIC LaaLacRaaRbaONIAN SIGN CAPITAL ETakETapOILETaeKYO TOWERajMATO
aeNGUEaeOLBOXaeTHaaBRUSHaiP ARC ANTICLOCKWISE ARROWaa WITH PLUSbdCLOCKWISE ARROW WITH MINUS
beCURLY BRACKETanHALF BLACK CIRCLEamINTEGRALaiLEFT PARENTHESISaqRIGHT PARENTHESISarSECTION SIGN
apTadLEFT CORNERafROPaeHALF BRACKETarPARENTHESISalRIGHT CORNERafROPaeHALF BRACKET
asSQUARE BRACKETaoTORTOISE SHELL BRACKETawWITH UPWARDS ARROW ABOVE
baRTOISE SHELL BRACKETED CJK UNIFIED IDEOGRAPH-4E09ac8Cae52DDadB89ae6253ad557ad72Cae70B9ad6D7
baLATIN CAPITAL LETTER SbtTAL RUNOUTajO LETTER AaaEacBAabREATHY AEacEaaOacIaaUakCHAadDAacEaaO
acGAacHAacIaaUacJAacKAacLAacMAacNAabGAadOabPAacRAacSAacTAacUabWAacYAajSIGN RISING TONEauRACKBALL
afTORaeDE MARK SIGNamINacMaa CARafNSPLUTOafVERSAL INTERSECTIONawIANGLE WITH DOT ABOVE
ajROUNDED CORNERSapSERIFS AT BOTTOMaqUNDERBARao-HEADED RIGHTWARDS ARROWbaULAR BULLET
agFLAG ON POSTamRULERanCOLONafDENT EMBLEMalGRAM FOR EARTHafFIREaeHEAVENagLAKEaeMOUNTAINaiTHUNDER
ahWATERaeINDanPLE COLON OPERATORaoDAGGERagHORIZONTAL BAR WITH DOUBLE VERTICAL STROKE
awTRIPLE VERTICAL STROKEbqINTEGRALaiNESTED GREATER-THANamLESS-THANaqPLUSadRIME
afSOLIDUS BINARY RELATIONaxTILDEafVERTICAL BAR BINARY RELATIONapDELIMITERajRIGHT TURNSTILE
apWITH HORIZONTAL STROKEboOLLaaEYBUSahPHYacICAL DRINKafFISHalUEaa LIGHT MOON ARTAarMPET
agUGRIK SIGNajLIPadMBLER GLASSalRKEYacISH LIRA SIGNaoNED AMPERSANDaiNGLEafBLACK PENTAGON
aiSHOGI PIECEarCAPITAL FaiOMMAafDAGGERafIGIT THREEaeWOajGREEK SMALL LETTER IOTA
axNORTH EAST POINTING LEAFasWEST POINTING LEAFawT SIGNaiOK HAND SIGNamSANS-SERIF CAPITAL GabLabY
atEMICOLONaiMALL FagOUTH EAST POINTING LEAFasWEST POINTING LEAFayWHITE SHOGI PIECEavTLE
afWELVE POINTED BLACK STARaxISTED RIGHTWARDS ARROWSaxO ASTERISKS ALIGNED VERTICALLY
bcBUTTON MOUSEamCONSECUTIVE EQUALS SIGNSayDOT LEADERagPUNCTUATIONamS OVER ONE DOT PUNCTUATION
bdHEARTSagINTERSECTING LOGICAL ANDadORaxJOINED SQUARESaoLOGICAL AND OPERATORamOR OPERATOR
atMEN HOLDING HANDSarSPEECH BUBBLESaoWOMEN HOLDING HANDSau-EM DASHalUGARITIC LETTER AINacLPA
aeBETAaeDELTAaeHALaeGAMLAaeHAINafHOaaTAaeIabKAFacHAadLAMDAafMEMadNUNadPUacQOPAaeRASHAafSADEacMKA
aeHINadSUadTETacHANNAafOacUabWOacYODadZETAadUajWORD DIVIDERauMBRELLAaa ON GROUND
ajWITH RAIN DROPSaxNAMUSED FACEalCERTAINTY SIGNaoDERTIEafO SYMBOLajICORN FACEajON
aa ABOVE BAR ABOVE INTERSECTIONawINTERSECTIONasBESIDE AND JOINED WITH UNIONbcWITH LOGICAL OR
akMINUS SIGNakOVERBARapT SEPARATORakED SYMBOLakVERSAL RECYCLING SYMBOL
ayMARRIED PARTNERSHIP SYMBOLbbP ARROW THROUGH CIRCLEapHEADaa BETWEEN TWO HORIZONTAL BARS
bbIN A RECTANGLE BOXbcBARB LEFT DOWN BARB LEFT HARPOONamRIGHT HARPOON
bcRIGHT DOWN BARB LEFT HARPOONamRIGHT HARPOONbiDOWN ARROWaa WITH BASEapBLACK ARROWalDOUBLE ARROW
amSANS-SERIF ARROWaqTRIANGLE-HEADED ARROWavWHITE ARROWaqFISH TAILajRIGHT DIAGONAL ELLIPSISaxTACK
aa WITH CIRCLE ABOVEax-POINTING AIRPLANEaiMILITARY AIRPLANEarRED TRIANGLEamSMALL AIRPLANE
aiRED TRIANGLEasTRIANGLE WITH LEFT HALF BLACKapRIGHT HALF BLACK
boPER AND LEFT AND LOWER TRIANGULAR THREE QUARTERS BLOCKbtOWER ONE EIGHTH BLOCK
aqTRIANGULAR HALF BLOCKbbRIGHT AND LOWER TRIANGULAR THREE QUARTERS BLOCKbzBLADE SCISSORS
aoFIVE EIGHTHS BLOCKasHALF BLOCKaa AND LOWER HALF INVERSE MEDIUM SHADEbpCIRCLE
agINVERSE MEDIUM SHADE AND LOWER HALF BLOCKbhWHITE CIRCLEauMEDIUM SHADE
arLEFT BLOCK DIAGONAL LOWER CENTRE TO LOWER MIDDLE RIGHTasUPPER MIDDLE RIGHTamRIGHT
avLEFT TO LOWER MIDDLE RIGHTasUPPER CENTREagMIDDLE RIGHTbaMIDDLE LEFT TO UPPER CENTRE
agMIDDLE RIGHTamRIGHTbgUPPER MIDDLE LEFT TO UPPER CENTREagRIGHTbvCORNER WITH DOT
apOR LOWER RIGHT CURLY BRACKET SECTIONbkQUADRANT CIRCULAR ARCavTO LOWER RIGHT FILLasRIANGLE
acULAR MEDIUM SHADEbcONE EIGHTH BLOCKamQUARTER BLOCK
arRIGHT BLOCK DIAGONAL LOWER MIDDLE LEFT TO LOWER CENTREagRIGHT
bgUPPER CENTRE TO LOWER MIDDLE RIGHTamRIGHTalUPPER MIDDLE RIGHTbcLEFT TO LOWER CENTRE
agMIDDLE RIGHTasUPPER MIDDLE RIGHTbaMIDDLE LEFT TO LOWER CENTREagMIDDLE RIGHTamRIGHT
bvDROP-SHADOWED WHITE SQUAREbaOR LOWER LEFT CURLY BRACKET SECTIONbjPENCILagQUADRANT CIRCULAR ARC
avSHADOWED WHITE CIRCLEagSQUAREavTO LOWER LEFT FILLarRIANGLEacULAR MEDIUM SHADE
bdSEVEN EIGHTHS BLOCKatTHREE EIGHTHS BLOCKanQUARTERS BLOCKatRIANGULAR ONE QUARTER BLOCK
bgSIDE-DOWN FACEaoWARDS ANCORAafRROWaa AND RIGHT ONE EIGHTH BLOCKbaFROM BAR
aiLEFTWARDS OF DOWNWARDS ARROWbcTO BARagWITH DOUBLE STROKEanEQUILATERAL ARROWHEAD
avHORIZONTAL STROKEarLARGE TRIANGLE ARROWHEADayMEDIUM TRIANGLE ARROWHEADazNOTCHED TAIL
amSMALL EQUILATERAL ARROWHEADavTRIANGLE ARROWHEADayTIP LEFTWARDSajRIGHTWARDSazBLACK ARROW
afCIRCLED WHITE ARROWazCOMPRESSED ARROWaqDASHED ARROWalOUBLE ARROWamFINGER-POST ARROW
arHARPOON WITH BARB LEFT BESIDE DOWNWARDS HARPOON WITH BARB RIGHT
bhUPWARDS HARPOON WITH BARB RIGHTbmFROM BARaiTO BARahWARDSajRIGHT FROM BARaiTO BARahWARDS
bbEAVY ARROWafCOMPRESSED ARROWawPAIRED ARROWSanQUADRUPLE ARROWapROCKETagSANS-SERIF ARROW
apQUARED ARROWanTRIANGLE ARROWHEADak-HEADED ARROWaa LEFTWARDS OF DOWNWARDS TRIANGLE-HEADED ARROW
bsTO BARagWITH BOLD SHAFTakDOUBLE HORIZONTAL STROKEayHEAVY SHAFTalLONG TIP LEFTWARDSajRIGHTWARDS
atMEDIUM SHAFTamNARROW SHAFTamVERY HEAVY SHAFTbbDASHED ARROWamPAIRED ARROWSbaPLE ARROW
alWO HEADED ARROWan-HEADED ARROW FROM SMALL CIRCLEarWITH TRIANGLE ARROWHEADSbpWHITE ARROW
aa FROM BARaa WITH HORIZONTAL BARbcON PEDESTALaa WITH HORIZONTAL BARaoVERTICAL BAR
bdWITHIN TRIANGLE ARROWHEADbfDOUBLE ARROWaa ON PEDESTALblRANUSafSacVAI COMMAafDIGIT EIGHTafFIVE
adOURaeNINEaeONEadSEVENaeIXadTHREEaeWOadZEROakFULL STOPajQUESTION MARKanSYLLABLE AaaNacBAabEaaE
acHAabEaaEacIabOaaOacUacIabOaaOacUacCAabEaaEacIabOaaOacUacDAabEaaEacHAabEaaEacHAabEaaEacIabOaaO
acUacIabOaaOacUacIabOaaOacUacEaaEaaNacNacFAabEaaEacIabOaaOacUacGAabBAabEaaEabNacIabOaaNabOacUacE
aaEabNacIabOaaOacUacHAaaNacEaaEabNacIaaNacOaaNabOacUaaNadIaaNacJAabEaaEacIabOaaOacUacKAaaNacEaaE
acIabOaaOacPAaaNacEaaEabNacIabOaaOacUacUacLAabEaaEabNGTHENERajIabOaaOacUacMAabBAabEaaEacIabOaaO
acUacEaaEacGBAabEaaEacIabOaaOacUadIabOaaOacUacNAabDAabEaaEacIabOaaLE DOacFAacKAacMAacSOOagOacU
acEaaEacGaaANacENacGAabEaaEabNacIabOaaOacUacONadIabJAabEaaEacIabOaaOacUacOaaOacUabYAabEaaEacIabO
aaOacUadOaaNabOaaNadPAabEaaEacIabOaaOacUacRAabEaaEacIabOaaOacUacSAabEaaEacHAabEaaEacIabOaaOacU
acIabOaaOacUacTAabEaaEacHAabEaaEacIabOaaOacUacIabOaaOacUacUaaNacVAabEaaEacIabOaaOacUacWAaaNacE
aaEaaNacNacIaaNacOaaNabOaaNadUaaNadYAabEaaEacIabOaaOacUacZAabEaaEacHAabEaaEacIabOaaOacUacIabOaaO
acUajMBOL BANGaeDANGadO-OacONGafFAAacEENGafJONGaeKEENGaeUNGaeNIIadTAAacINGadONGanMPIRE
afRIATION SELECTOR-1aa0aa0ab1ab2ab3ab4ab5ab6ab7ab8ab9ac1aa0ab1ab2ab3ab4ab5ab6ab7ab8ab9ac2aa0ab1
ab2ab3ab4ab5ab6ab7ab8ab9ac3aa0ab1ab2ab3ab4ab5ab6ab7ab8ab9ac4aa0ab1ab2ab3ab4ab5ab6ab7ab8ab9ac5aa0
ab1ab2ab3ab4ab5ab6ab7ab8ab9ac6aa0ab1ab2ab3ab4ab5ab6ab7ab8ab9ac7aa0ab1ab2ab3ab4ab5ab6ab7ab8ab9ac8
aa0ab1ab2ab3ab4ab5ab6ab7ab8ab9ac9aa0ab1ab2ab3ab4ab5ab6ab7ab8ab9ad2aa0aa0ab1ab2ab3ab4ab5ab6ab7ab8
ab9ac1aa0ab1ab2ab3ab4ab5ab6ab7ab8ab9ac2aa0ab1ab2ab3ab4ab5ab6ab7ab8ab9ac3aa0ab1ab2ab3ab4ab5ab6ab7
ab8ab9ac4aa0ab1ab2ab3ab4ab5ab6ab7ab8ab9ac5aa0ab1ab2ab3ab4ab5ab6ac6ab7ab8ab9ac3aa0ab1ab2ab3ab4ab5
ab6ab7ab8ab9ac4aa0ab1ab2ab3ab4ab5ab6ab7ab8ab9ac5aa0ab1ab2ab3ab4ab5ab6ab7ab8ab9ac6aa0ab1ab2ab3ab4
ab5ab6ab7ab8ab9ac7aa0ab1ab2ab3ab4ab5ab6ab7ab8ab9ac8aa0ab1ab2ab3ab4ab5ab6ab7ab8ab9ac9aa0ab1ab2ab3
ab4ab5ab6ab7ab8ab9auECTOR OR CROSS PRODUCTavDIC SIGN ANUSVARA ANTARGOMUKHAamBAHIRGOMUKHA
amUBHAYATO MUKHAaoVAMAGOMUKHAaa WITH TAILbdRDHAVISARGAalTIKRAMAaiDOUBLE ANUSVARA ANTARGOMUKHA
bcHEXIFORM LONG ANUSVARAawJIHVAMULIYAalLONG ANUSVARAanNIHSHVASAajREVERSED VISARGA ANUDATTA
aiUDATTAawOTATED ARDHAVISARGAatTHANG LONG ANUSVARAauTIRYAKagUPADHMANIYAalVISARGA ANUDATTA
aa WITH TAILasSVARITAahUDATTAaa WITH TAILayYAJURVEDIC MIDLINE SVARITA
bfTONE ATHARVAVEDIC INDEPENDENT SVARITAbgCANDRA ABOVEafBELOWamDOT BELOWahUBLE RING ABOVE
akSVARITAaoKARSHANAagTHAKA ANUDATTAaqPRENKHAahRIGVEDIC KASHMIRI INDEPENDENT SVARITAbjNG ABOVE
akSHARAafTHREE DOTS BELOWapRIPLE SVARITAanWO DOTS BELOW
aoYAJURVEDIC AGGRAVATED INDEPENDENT SVARITAbeINDEPENDENT SVARITAatKATHAKA INDEPENDENT SVARITA
aa SCHROEDERcfRSICLEafTICAL BAR BESIDE RIGHT TRIANGLEavDOUBLE LEFT TURNSTILE
avTRIPLE RIGHT TURNSTILEawWITH HORIZONTAL STROKEbaELLIPSISaiFOUR DOTS
ajIDEOGRAPHIC ITERATION MARKbaKANA REPEAT MARKaa LOWER HALFakUPPER HALFapWITH VOICED SOUND MARK
aa UPPER HALFbtLINEaa EXTENSIONajWITH CIRCLE ABOVEafBELOWamMIDDLE DOTauMALE WITH STROKE SIGN
avONE EIGHTH BLOCK-2ab3ab4ab5ab6ab7asSIX DOTSaiTAB KEYaeULATIONaa SETanILDEaeRAFFIC LIGHT
anZIGZAG LINEarY BOLD GREEK CROSSaqHEAVY EIGHT POINTED BLACK STARasSPOKED ASTERISK
avFIVE SPOKED ASTERISKauGREEK CROSSalREVERSE SOLIDUSapSALTIREagIX SPOKED ASTERISKasOLIDUS
ahWHITE CIRCLEagSQUAREasMUCH GREATER-THANamLESS-THANarSTAaeIBRATION MODEamCTORY HANDakDEO CAMERA
agGAMEafCASSETTEalETNAMESE ALTERNATE READING MARK CAacNHAYbjWDATA SQUAREanOLINaeRGO
adTHKUQI CAPITAL LETTER AabBBEacEacCEabHEadDEabHEadEaaIacFEacGAacHAabHAadIaaJEadJEacKAacLAabLA
adMEacNEabJEadOabPEacQAacREacSEabHEadTEabHEadUabVEacXEacYabZEarSMALL LETTER AabBBEacEacCEabHE
adDEabHEadEaaIacFEacGAacHAabHAadIaaJEadJEacKAacLAabLAadMEacNEabJEadOabPEacQAacREacSEabHEadTEabHE
adUabVEacXEacYabZEaxOIDED GREEK CROSSaqLCANOaeLEYBALLahUME INTEGRALaoS1aa0aa0ab1ab2ab3ab4ab5ab6
ab7ab8ab9ac1aa0ab1ab2ab3ab4ab5ab6ab7ab8ab9ac2aa0ab1ab2ab3ab4ab5ab6ab7ab8ab9ac3aa0ab1ab2ab3ab4ab5
ab6ab7ab8ab9ac4aa0ab1ab2ab3ab4ab5ab6ab7ab8ab9ac5aa0ab1ab2ab3ab4ab5ab6ab7ab8ab9ac6aa0ab1ab2ab3ab4
ab5ab6ab7ab8ab9ac7aa0ab1ab2ab3ab4ab5ab6ab7ab8ab9ac8aa0ab1ab2ab3ab4ab5ab6ab7ab8ab9ac9aa0ab1ab2ab3
ab4ab5ab6ab7ab8ab9ad2aa0aa0ab1ab2ab3ab4ab5ab6ab7ab8ab9ac1aa0ab1ab2ab3ab4ab5ab6ab7ab8ab9ac2aa0ab1
ab2ab3ab4ab5ab6ab7ab8ab9ac3aa0ab1ab2ab3ab4ab5ab6ab7ab8ab9ac4aa0ab1ab2ab3ab4ab5ab6ab7ab8ab9ac5aa0
ab1ab2ab3ab4ab5ab6ac6ab7ab8ab9ac3aa0ab1ab2ab3ab4ab5ab6ab7ab8ab9ac4aa0ab1ab2ab3ab4ab5ab6ab7ab8ab9
ac5aa0ab1ab2ab3ab4ab5ab6ab7ab8ab9ac6aa0ab1ab2ab3ab4ab5ab6ab7ab8ab9ac7aa0ab1ab2ab3ab4ab5ab6ab7ab8
ab9ac8aa0ab1ab2ab3ab4ab5ab6ab7ab8ab9ac9aa0ab1ab2ab3ab4ab5ab6ab7ab8ab9adTaaSacULCANUS
afGAR FRACTION FIVE EIGHTHSahSIXTHSakOUR FIFTHSalONE EIGHTHagFIFTHafHALFaeNINTHafQUARTER
ahSEVENTHagIXTHafTENTHaeHIRDajSEVEN EIGHTHSanTHREE EIGHTHSahFIFTHSagQUARTERSanWO FIFTHSagTHIRDS
akZERO THIRDSbbWAFFLEaeNCHO DIGIT EIGHTafFIVEadOURaeNINEaeONEadSEVENaeIXadTHREEaeWOadZERO
akLETTER AaaAaaNaaGadNGacUacBAacCAacDAacEaaNacFAacGAacHAacIaaNGadJAacKAabHAadLAabLHAaeMAacNAabGA
acYAadOaaNaaGadPAabHAadRAacSAabHAadTAabHAacRAacSAadUaaENadVAacWAacYAabIHadZAajNGUN SIGN
ajTONE KOIaaNIafTUPaaNIaoING CRESCENT MOON SYMBOLauGIBBOUS MOON SYMBOL
ayRANG CITI CAPITAL LETTER AaaMabNGacTacBUacDAacEaaNNabYadGAacHARacIYOadOLOacRRaeIIacKOacNGAA
adUNGaeOaaDDadPUacSIIacSUUaeTTEadUCabUacVIYOaeWIacYAabOabUaaJasDIGIT EIGHTafFIVEadOURaeNINEaeONE
adSEVENaeIXadTHREEaeWOadZEROakNUMBER EIGHTYagFIFTYaeORTYafNINETYagSEVENTYagIXTYafTENacHIRTY
afWENTYanOMacSMALL LETTER AaaMabNGacTacBUacDAacEaaNNabYadGAacHARacIYOadOLOacRRaeIIacKOacNGAA
adUNGaeOaaDDadPUacSIIacSUUaeTTEadUCabUacVIYOaeWIacYAabOabUaaJazNING SIGNakSTEBASKETajTCH
acER BUFFALOahCLOSETagPOLOaeWAVEafMELONaiVE ARROW POINTING DIRECTLY LEFTaeRIGHTbdDASH
agING BLACK FLAGakHAND SIGNajWHITE FLAGaoY DASHaeLINEadOW LINEaiOVERLINE
alXING CRESCENT MOON SYMBOLauGIBBOUS MOON SYMBOLazEARY CAT FACEaiFACEaiDDING
aeGE-TAILED RIGHTWARDS ARROWbbIERSTRASS ELLIPTIC FUNCTIONbaGHT LIFTERalST SYRIAC CROSSaqHALE
adEELaa OF DHARMAakCHAIR SYMBOLapITE ARROW SHAFT WIDTH ONEadTWO THIRDSbcBULLETagCHESS BISHOP
aa ROTATED NINETY DEGREESaoTWO HUNDRED SEVENTY DEGREESbqEQUIHOPPERaa ROTATED NINETY DEGREES
bhKINGaa ROTATED NINETY DEGREESaoTWO HUNDRED SEVENTY DEGREESbnNIGHTaa ROTATED FORTY-FIVE DEGREES
asNINETY DEGREESaoONE HUNDRED THIRTY-FIVE DEGREESbfTHREE HUNDRED FIFTEEN DEGREES
bcWO HUNDRED SEVENTY DEGREESapTWENTY-FIVE DEGREESbo-BISHOPagQUEENafROOKalPAWN
aa ROTATED NINETY DEGREESaoTWO HUNDRED SEVENTY DEGREESboQUEENaa ROTATED NINETY DEGREES
aoTWO HUNDRED SEVENTY DEGREESbpROOKaa ROTATED NINETY DEGREESaoTWO HUNDRED SEVENTY DEGREES
boTURNED BISHOPagKINGadNIGHTagPAWNaeQUEENafROOKaqIRCLEaa CONTAINING BLACK SMALL CIRCLE
bdWITH DOT RIGHTahWN ARROWakLOWER LEFT QUADRANTanRIGHT QUADRANTauTWO DOTSaiUPPER LEFT QUADRANT
anRIGHT QUADRANTbfLUB SUITaiONCAVE-SIDED DIAMONDaa WITH LEFTWARDS TICKaoRIGHTWARDS TICKbqDIAMOND
aa CONTAINING BLACK MEDIUM DIAMONDaoSMALL DIAMONDanVERY SMALL DIAMONDbjIN SQUAREajSUIT
aeWITH CENTRED DOTaxOWN POINTING BACKHAND INDEXaoINDEXafLEFT HAND INDEX
az-POINTING SMALL TRIANGLEaoTRIANGLEavRAUGHTS KINGaeMANamEXCLAMATION MARK ORNAMENTazFLAG
aa WITH HORIZONTAL MIDDLE BLACK STRIPEbmORETTEafWERafOUR POINTED CUSPaeSTARaqROWNING FACE
anHARD SHELL FLOPPY DISKavEARTaa SUITahVY CHECK MARKakSALTIRE WITH ROUNDED CORNERSbgXAGON
agORIZONTAL ELLIPSEaqURGLASSajLARGE SQUAREakTIN CROSSakEFT LANE MERGEakPOINTING BACKHAND INDEX
aoINDEXap-POINTING POINTERahSMALL TRIANGLEaoTRIANGLEavOZENGE CONTAINING BLACK SMALL LOZENGE
bmMEDIUM DIAMONDahLOZENGEahSMALL SQUAREalQUAREafTARakOON SELENAalNIBadPARALLELOGRAMamENNANT
aeTAGONaiQUESTION MARK ORNAMENTawRECTANGLEaiIGHT POINTING BACKHAND INDEXaoINDEX
ap-POINTING PENTAGONahOINTERahSMALL TRIANGLEaoTRIANGLEaxSCISSORSahESAME DOTajHOGI PIECE
akMALL LOZENGEahSQUAREafTARaiILING FACEalPADE SUITajQUAREaa BUTTON
agCONTAINING BLACK MEDIUM SQUAREanSMALL SQUAREamVERY SMALL SQUAREbiWITH CENTRE VERTICAL LINE
auLEFTWARDS TICKanOWER LEFT QUADRANTanRIGHT QUADRANTauRIGHTWARDS TICKaoOUNDED CORNERS
apUPPER LEFT QUADRANTanRIGHT QUADRANTauVERTICAL BISECTING LINEbiTARadUNaa BEHIND CLOUD
aa WITH RAINawWITH RAYSaeSMALL CLOUDauTELEPHONEaiOUCHTONE TELEPHONEasRAPEZIUM
ahIANGLE CONTAINING SMALL WHITE TRIANGLEbnWO-WAY LEFT WAY TRAFFICayUP POINTING BACKHAND INDEX
aoINDEXap-POINTING CHEVRONahSMALL TRIANGLEaoTRIANGLEaa WITH DOTbdVERTICAL BARadELLIPSE
ahRECTANGLEapY SMALL SQUAREas-FEATHERED RIGHTWARDS ARROWbfIDE-HEADED DOWNWARDS BARB ARROW
akHEAVY BARB ARROWaqLIGHT BARB ARROWaqMEDIUM BARB ARROWarVERY HEAVY BARB ARROW
bfLEFTWARDS BARB ARROWakHEAVY BARB ARROWaqLIGHT BARB ARROWaqMEDIUM BARB ARROW
arVERY HEAVY BARB ARROWbfNORTH EAST BARB ARROWakHEAVY BARB ARROWaqLIGHT BARB ARROW
aqMEDIUM BARB ARROWarVERY HEAVY BARB ARROWbaWEST BARB ARROWakHEAVY BARB ARROWaqLIGHT BARB ARROW
aqMEDIUM BARB ARROWarVERY HEAVY BARB ARROWbgRIGHTWARDS BARB ARROWakHEAVY BARB ARROW
aqLIGHT BARB ARROWaqMEDIUM BARB ARROWarVERY HEAVY BARB ARROWbgSOUTH EAST BARB ARROW
akHEAVY BARB ARROWaqLIGHT BARB ARROWaqMEDIUM BARB ARROWarVERY HEAVY BARB ARROWbaWEST BARB ARROW
akHEAVY BARB ARROWaqLIGHT BARB ARROWaqMEDIUM BARB ARROWarVERY HEAVY BARB ARROW
bgUPWARDS BARB ARROWakHEAVY BARB ARROWaqLIGHT BARB ARROWaqMEDIUM BARB ARROW
arVERY HEAVY BARB ARROWbnGGLY VERTICAL LINEasLTED FLOWERalND BLOWING FACEamCHIMEagOWadE GLASS
ahKING FACEakRED KEYBOARDanJabOLF FACEahMANaa WITH BUNNY EARSaqS BOOTSafCLOTHESahHATadSANDAL
akENS SYMBOLalN SIGNagODacRD JOINERagSEPARATOR MIDDLE DOTawLD MAPagMabRIED FACEalRAPPED PRESENT
anEATH PRODUCTalNCHadSTLERSahITING HANDamX IN A RECTANGLE BOXat-RAYaeIANGQI BLACK CANNONafHARIOT
ahELEPHANTaiGENERALahHORSEafMANDARINaiSOLDIERanRED CANNONafHARIOTahELEPHANTaiGENERALahHORSE
afMANDARINaiSOLDIERasORadYAWNING FACEalELLOW HEARTakN SIGNagZIDI COMBINING HAMZA MARK
akMADDA MARKauHYPHENATION MARKaqLETTER BEacCHHIMadIMadIMadDADabLadELIFadTabWabYNadFAacGAFadHAY
acHAadJAacKAFacHAFaeLAMaa WITH DOT ABOVEasMIMadNUNadOWacPEabHEadQAFadRAabHAadSADacEabHINadINadTA
abHEadUMacVAaa ALTERNATE FORMarWAWadXAabHEYNafYOTaa WITH CIRCUMFLEX ABOVEazZAaaLacE
apI RADICAL BBUTadURadCHEacIPacUOPadYaaPabTadDDURadUacGAabEPacGOPacUOadOTadHMOacXITacOPacUO
aeJJIEacUTacYacOacKEabITadLIaaEacYRadMIabOPadNBIEadYIPacOPadZUPaeOPacPUTacYTadQOTadSHATacOPacUR
acYacSIadTATacUacVEPacURadWOacYITacOacZAabOTacUPabRacZIETanSYLLABLE AaaPabTabXacBAaaPabTabXacBA
aaPabTabXacEaaPabXacIaaEaaPabTabXacPabTabXacOaaPabTabXacUaaOaaPabXacPabRaaXacTabXacYaaPabTabXadE
aaPabXacIaaEaaPabTabXacPabTabXacOaaPabTabXacUaaOaaPabXacPabRaaXacTabXacYaaPabRaaXacTabXadCAaaP
abTabXacEaaPabXacHAaaPabTabXacEaaPabTabXacOaaPabTabXacUaaOaaPabTabXacPabRaaXacXacYaaPabRaaXacT
abXadIaaEaaPabTabXacPabTabXacOaaPabTabXacUaaOaaPabXacPabRaaXacTabXacYaaPabRaaXacTabXadDAaaPabT
abXacDAaaPabTabXacEaaPabXacIaaEaaPabXacPabTabXacOaaPabTabXacUaaOaaPabXacPabRaaXacTabXadEaaPabX
acIaaEaaPabXacPabTabXacOaaPabTabXacUaaOaaXacPabRaaXacTabXadEaaXacFAaaPabTabXacIaaPabTabXacOaaP
abXacUaaPabRaaXacTabXacYaaPabTabXadGAaaPabTabXacEaaPabTabXacGAaaPabTabXacEaaPabTabXacIaaEaaPabX
acTabXacOaaPabTabXacUaaOaaPabTabXacPabRaaXacTabXadIaaEaaPabTabXacPabTabXacOaaPabTabXacUaaOaaPabT
abXacPabRaaXacTabXadHAaaPabTabXacEaaPabXacIEaaXacTacLAaaPabTabXacEaaPabXacIaaEaaPabXacPabTabXacO
aaPabXacUaaOaaPabXacPabRaaXacTabXacYaaPabRaaXacTabXadMAaaPabTabXacIaaEaaPabXacPabTabXacOaaPabT
abXacUaaOaaPabXacPabRaaXacTabXacYaaPabRaaXacXadNAaaPabTabXacEaaPabXacIaaEaaPabTabXacPabTabXacOP
abTabXacUOaaXacTadOaaPabTabXacUOaaPabTabXadXAaaPabTabXacEaaPabXacIaaEaaPabTabXacPabTabXacOaaPabT
abXacUOaaPabTabXafIaaEaaPabTabXacPabTaaERATION MARKanXacJIaaEaaPabTabXacPabTabXacJIaaEaaPabTabX
acPabTabXacOaaPabTabXacUaaOaaPabXacPabRaaXacTabXacYaaPabTabXadOaaPabTabXacUaaOaaPabTabXacPabRaaX
acTabXacYaaPabRaaXacTabXadKAaaPabTabXacEaaPabTabXacIaaEaaPabXacPabTabXacOaaPabTabXacUaaOaaPabX
acPabRaaXacTabXadLAaaPabTabXacEaaPabXacIaaEaaPabTabXacPabTabXacOaaPabTabXacUaaOaaPabTabXacPabR
aaXacTabXacYaaPabRaaXacTabXadMAaaPabTabXacEaaXacGAaaPabTabXacEaaPabXacIEaaXadOaaPabTabXacUaaOaaP
abXacPabRaaXacTabXadIaaEaaPabXacPabTabXacOaaPabTabXacUaaOaaPabTabXacPabRaaXacTabXacYaaPabTabX
adNAaaPabXacBAaaPabTabXacIaaEaaPabXacPabTabXacOaaPabTabXacUaaPabRaaXacTabXacYaaPabRaaXacTabXadDA
aaPabTabXacEaaPabXacIaaEaaXacPabTabXacOaaPabTabXacUaaPabRaaXacTabXadEaaPabXacGAaaPabTabXacEaaP
abXacIEaaPabXadOaaPabTabXacUOaaTabXaeIaaEaaPabXacPabTabXacJIaaEaaPabTabXacPabTabXacOaaPabTabXacU
aaOaaXacPabRaaXacXacYaaPabRaaXacTabXadOaaPabTabXacRAaaPabTabXacEaaPabTabXacOaaPabXacUaaPabRaaX
acTabXacYaaPabRaaXacTabXadUaaOaaPabXacPabRaaXacTabXacYIaaEaaPabTabXacPabTabXacOaaPabTabXacUaaO
aaPabXacPabTabXadZAaaPabTabXacEaaXacIaaEaaPabXacPabTabXacOPabXacUaaOaaXacPabRaaXacXacYaaPabRaaX
acTabXaeOaaPabTabXacPAaaPabTabXacIaaEaaPabXacPabTabXacOaaPabTabXacUaaOaaPabXacPabRaaXacTabXacY
aaPabRaaXacTabXadQIaaEaaPabTabXacPabTabXacOaaPabTabXacUaaOaaPabTabXacPabRaaXacTabXacYaaPabRaaX
acTabXadRAaaPabTabXacEaaPabXacOaaPabTabXacRAaaXacEaaPabTabXacOaaPabTabXacUaaOaaXacPabRaaXacTabX
acYaaPabRaaXacTabXadUaaOaaPabXacPabRaaXacTabXacYaaPabRaaXacTabXadSAaaPabTabXacEaaPabXacHAaaPabT
abXacEaaPabTabXacOaaPabTabXacUaaOaaPabXacPabRaaXacTabXacYaaPabRaaXacTabXadIaaEaaPabXacPabTabXacO
aaPabTabXacSAaaPabTabXacEaaPabXacIaaEaaPabXacPabTabXacOaaPabTabXacUaaPabTabXacYaaPabRaaXacTabX
adUaaOaaPabXacPabRaaXacTabXacYaaPabRaaXacTabXadTAaaPabTabXacEaaPabXacIaaEaaPabXacPabTabXacOaaP
abTabXacUaaOaaPabTabXacPabRaaXacTabXadUOaaPabXadVAaaPabTabXacEPabXacIaaEaaPabTabXacPabTabXacOaaP
abTabXacUaaPabRaaXacTabXacYaaPabRaaXacTabXadWAaaPabTabXacEaaPabXacOaaPabXacUaaOaaPabXaeXIaaEaaP
abTabXacPabTabXacOaaPabTabXacUOaaXadYaaPabRaaXacTabXadYIaaEaaPabTabXacPabTabXacOaaPabTabXacUaaO
aaPabTabXacPabRaaXacTabXacYaaPabRaaXacTabXadZAaaPabTabXacEaaPabXacHAaaPabTabXacEaaPabTabXacOaaP
abTabXacUaaOaaPabXacPabRaaXacTabXacYaaPabRaaXacTabXadIaaEaaPabXacPabTabXacOaaPabTabXacUaaOaaPabX
acPabRaaXacTabXacYaaPabRaaXacTabXacZAaaPabTabXacEaaPabXacIaaEaaPabTabXacPabTabXacOaaPabXacUaaP
abRaaXacXacYaaPabRaaXacTabXaoN YANGahO-YOafZ NOTATION BAG MEMBERSHIPaoDOMAIN ANTIRESTRICTION
awLEFT BINDING BRACKETapIMAGE BRACKETasRANGE ANTIRESTRICTIONauELATIONAL COMPOSITION
avIGHT BINDING BRACKETapIMAGE BRACKETatSCHEMA COMPOSITIONalPIPINGafROJECTIONaqPOTaeTYPE COLON
auANABAZAR SQUARE CLOSING DOUBLE-LINED HEAD MARKawHEAD MARKapUSTER-FINAL LETTER LAacRAacVAacYA
apINITIAL LETTER RAazFINAL CONSONANT MARKauINITIAL DOUBLE-LINED HEAD MARKawHEAD MARKarLETTER -A
acAabBAabHAadCAabHAadDAabDAabHAadHAacZAabHAaeGAabHAadHAacJAacKAabHAacSSAaeLAacMAacNAabGAacNAacYA
adPAabHAadRAacSAabHAacSAadTAabHAacSAabHAadTAabHAaeVAacYAacZAabHAakMARK DOUBLE SHADalLONG TSHEG
akSHADaeTSHEGakSIGN ANUSVARAaiCANDRA WITH ORNAMENTaoBINDUaa WITH ORNAMENTazVIRAMAaeSARGA
alUBJOINERajVOWEL LENGTH MARKalSIGN AIabUacEabIabOaaEacREVERSED IakUaaEbdEBRA FACE
aiRO WIDTH JOINERagNO-BREAK SPACEamN-JOINERakSPACEaoUSadIPPER-MOUTH FACE
aqNAMENNY COMBINING ATTACHING VERTICAL OMETaxLOWER TONAL RANGE INDICATORbbMARK BORZAYAahCHASHKA
aa POLNAYAaoURVED OMETalDEMESTVENNY ZADERZHKAauVOETOCHIEakGORAZDO NIZKO ON LEFTaeRIGHT
aiS KRYZHEM ON LEFTaeRIGHTayVYSOKOaoKACHKAafRYZHaa ON LEFTamUPNAYAahLOMKAafMALO POVYSHE ON LEFT
aeRIGHTaiS KHOKHLOM ON LEFTaeRIGHTaqRYZHEMaiTRANNOauNIZKO ON LEFTaeRIGHTaiS KRYZHEM ON LEFT
aeRIGHTayOBLACHKOahNabTSECHKAaiPODCHASHIEaa WITH VERTICAL STROKEbcVERTKAahVYSHE ON LEFTaeRIGHT
aiS KHOKHLOM ON LEFTaeRIGHTaqRYZHEMaiTRANNOapRAVNOadZSEKAahSKOBAaeOROCHYA NOZHKAaoREDNE ON LEFT
aeRIGHTaoTRANNO MALO POVYSHEauTIKHAYAagOCHKAafSATA ON LEFTaeRIGHTaiS KRYZHEMapUDARKA
agVYSOKO ON LEFTaeRIGHTaiS KHOKHLOM ON LEFTaeRIGHTaqRYZHEMaqZADERZHKAaiELOacVOK
akTONAL RANGE MARK MRACHNOahSVETLOagTRESVETLObkNEUME CHASHKAafELYUSTKAakDEMESTVENNY KLYUCH
aqRBITSAahOUBLE ZAPYATAYAapUDAadVA V CHELNUamFITAaeGOLUBCHIK BORZYafMRACHNYahSVETLYagTIKHY
aeRESVETLYatKHAMILOagLYUCHafOBYLAafRYUKaa TIKHYaiZHaeUFISMAahMECHIKaa KLYUCHENEPOSTOYANNY
amPOVODNYahVOYakPOVODNYaoNEMKAafOBLAKOafSOKAaa KLYUCHEVAYA NEPOSTOYANNAYAaoSVETLAYA
atRYUKOVAYA SVETLAYAatSVETLAYAaiTRESVETLAYAarPALKAadRAKLITagUKadEREVODKAaa NEPOSTOYANNAYA
axODCHASHIEaiLKULIZMYakREVERSED CHELYUSTKAasOGadSKAMEYTSA DVOECHELNAYA KLYUCHEVAYA
alNEPOSTOYANNAYAaoPROSTAYAaiSVETLAYAavKLYUCHENEPOSTOYANNAYAaoVAYA SVETLAYAaiTIKHAYAatMRACHNAYA
ajSVETLAYAaiTIKHAYAagRESVETLAYAauLOZHITIEaa S KRYZHEMahZAPYATOYakZAKRYTOEarTATYA
aa NEPOSTOYANNAYAaoS DVUMYA ZAPYATYMIaqKRYZHEMaa I ZAPYATOYasROGOMafZAPYATOYaa I KRYZHEM
ahPODCHASHIEMayZAKRYTAYAaa S ZAPYATOYazOPITSAaa S OCHKOMaiWITH SOROCHYA NOZHKA
bbRELA DVOECHELNAYAaa KLYUCHEVAYAapOKRYZHEVAYAakPOVODNAYAaa KLYUCHEVAYAbfGROMNAYA
aa WITH SINGLE ZAPYATAYAbaOKRYZHEVAYAaa POVODNAYAauPOVODNAYAaa WITH DOUBLE ZAPYATAYA
aqSINGLE ZAPYATAYAbkKLYUCHENEPOSTOYANNAYAaoPOVODNAYAapRYUKOVAYAaa GROMNAYA
aa WITH SINGLE ZAPYATAYAbaOKRYZHEVAYAaa POVODNAYAauPOVODNAYAaa WITH DOUBLE ZAPYATAYA
aqSINGLE ZAPYATAYAbkPOVODNAYAajTRYASKAapZHEVAYAakMRACHNOTIKHAYAaoNEPOSTOYANNAYAaoPOLUPOVODNAYA
alVODNAYAaiROSTAYAaiTIKHAYA PUTNAYAaoRYASOGLASNAYAaiPOVODNAYAajSTRELNAYA
awVRAKHIYA KLYUCHEVAYA MRACHNAYAajPROSTAYAaiSVETLAYAaiTRESVETLAYAaxMRACHNAYAajPROSTAYAaiSVETLAYA
aiTRESVETLAYAauZANOZHEKagPYATAYAaiMEYTSAanPRIZNAK MODIFIER DIRECTION FLIPaoKRYZHafLEVEL-2ab3
ahROGbcOMBIEafWJabNBSPadJacSP"

end ProtocolBindings.Text
